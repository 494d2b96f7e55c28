import PcmPlayback.Session
import PcmPlayback.StreamTable

/-!
# Racks

A rack opens devices for streams from one template, all on one clock. Clients reach an open device
through its handle. Whoever opened a device may also keep hold of it, and finds it freed once its
handle is closed.
-/

set_option autoImplicit false

namespace PcmPlayback

/-- A deck that was opened in a rack, with the handle it was opened under. -/
structure Seat where
  handle : Handle
  deck : Deck

/-- A rack of decks. Seats are kept in the order they were opened, closed ones too, and the table
says which are open; it is gone once the rack is dropped. -/
structure Rack where
  clock : ManualClock
  template : Template
  table : Option (StreamTable Nat) := some {}
  seats : List Seat := []

namespace Rack

/-- What a client can ask of the table. Requests with a seat use the handle under which the seat
was opened, stale or not. -/
inductive Request where
  | enter (stream : UInt32)
  | lookup (stream : UInt32)
  | count
  | close (seat : Nat)
  | find (seat : Nat)
  | call (seat : Nat) (call : Call)
  | drop

/-- A step on a rack: a move of the clock, a request to the table, or a step on a deck past the
table. -/
inductive Step where
  | clock (move : ManualClock.Move)
  | table (request : Request)
  | direct (seat : Nat) (step : Deck.Step)

inductive Reply where
  | refused (cause : Error)
  | closed
  | found (same : Bool)
  | deck (reply : Deck.Reply)
  deriving Repr, DecidableEq

inductive Entry where
  | clock (now : Tick)
  | entered (outcome : Except Error (Nat × Handle)) (size : Nat)
  | named (seat : Option (Nat × Handle)) (size : Nat)
  | counted (size : Nat)
  | seat (reply : Reply) (view : Deck.View)
  | dropped
  | noSuchSeat
  | noTable

def putDeck (rack : Rack) (seat : Nat) (deck : Deck) : Rack :=
  { rack with seats := rack.seats.modify seat fun found => { found with deck := deck } }

/-- Opens a device for a stream. A stream has at most one, and a template that cannot be built is
refused; either way nothing is entered. -/
def enter (rack : Rack) (table : StreamTable Nat) (stream : UInt32) :
    Rack × Except Error (Nat × Handle) :=
  match table.lookup stream with
  | some _ => (rack, .error (.streamBusy stream))
  | none =>
      match rack.template.build rack.clock.ticksPerSecond with
      | .error cause => (rack, .error cause)
      | .ok device =>
          let seat := rack.seats.length
          let (handle, table) := table.enter stream seat
          ({ rack with
              table := some table
              seats := rack.seats ++ [⟨handle, { device := device }⟩] },
            .ok (seat, handle))

/-- Closes the device that a handle names: it leaves the table and is freed. -/
def close (rack : Rack) (table : StreamTable Nat) (handle : Handle) : Rack × Except Error Unit :=
  match table.remove handle with
  | .error cause => (rack, .error cause)
  | .ok (seat, table) =>
      ({ rack with
          table := some table
          seats := rack.seats.modify seat fun found => { found with deck := found.deck.free } },
        .ok ())

/-- Frees every open device and gives up the table. -/
def drop (rack : Rack) (table : StreamTable Nat) : Rack where
  clock := rack.clock
  template := rack.template
  table := none
  seats := table.values.foldl
    (fun seats seat => seats.modify seat fun found => { found with deck := found.deck.free })
    rack.seats

/-- The entry of a seat at which nothing happened but the reply. -/
def seatEntry (rack : Rack) (seat : Nat) (reply : Reply) : Entry :=
  match rack.seats[seat]? with
  | some found => .seat reply (found.deck.view [] [])
  | none => .noSuchSeat

/-- Serves a request with the present table. -/
def serve (rack : Rack) (table : StreamTable Nat) : Request → Rack × Entry
  | .enter stream =>
      let (next, outcome) := rack.enter table stream
      (next, .entered outcome ((next.table.map StreamTable.size).getD 0))
  | .lookup stream =>
      let named := (table.lookup stream).bind fun handle =>
        (table.find? handle).map fun seat => (seat, handle)
      (rack, .named named table.size)
  | .count => (rack, .counted table.size)
  | .close seat =>
      match rack.seats[seat]? with
      | none => (rack, .noSuchSeat)
      | some found =>
          match rack.close table found.handle with
          | (next, .ok ()) => (next, next.seatEntry seat .closed)
          | (next, .error cause) => (next, next.seatEntry seat (.refused cause))
  | .find seat =>
      match rack.seats[seat]? with
      | none => (rack, .noSuchSeat)
      | some found =>
          match table.find? found.handle with
          | none => (rack, rack.seatEntry seat (.refused (.unknownHandle found.handle)))
          | some named => (rack, rack.seatEntry seat (.found (named == seat)))
  | .call seat call =>
      match rack.seats[seat]? with
      | none => (rack, .noSuchSeat)
      | some found =>
          match table.find? found.handle with
          | none => (rack, rack.seatEntry seat (.refused (.unknownHandle found.handle)))
          | some named =>
              match rack.seats[named]? with
              | none => (rack, .noSuchSeat)
              | some target =>
                  let (deck, reply, view) := target.deck.call rack.clock.now call
                  (rack.putDeck named deck, .seat (.deck (.answered reply)) view)
  | .drop => (rack.drop table, .dropped)

def step (rack : Rack) : Step → Rack × Entry
  | .clock move =>
      let clock := rack.clock.move move
      ({ rack with clock := clock }, .clock clock.now)
  | .direct seat step =>
      match rack.seats[seat]? with
      | none => (rack, .noSuchSeat)
      | some found =>
          let (deck, reply, view) := found.deck.step rack.clock.now step
          (rack.putDeck seat deck, .seat (.deck reply) view)
  | .table request =>
      match rack.table with
      | none => (rack, .noTable)
      | some table => rack.serve table request

def run (rack : Rack) : List Step → Rack × List Entry
  | [] => (rack, [])
  | step :: rest =>
      let (next, entry) := rack.step step
      let (last, entries) := next.run rest
      (last, entry :: entries)

end Rack

end PcmPlayback
