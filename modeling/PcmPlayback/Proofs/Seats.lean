import PcmPlayback.Proofs.Handles

/-!
# Seats

In a rack the handle of an open seat reaches the deck of this seat, and the handle of a closed one
reaches nothing. What was opened and what was closed is read off the replies of a run.
-/

set_option autoImplicit false

namespace PcmPlayback

namespace Rack

/-- A rack in which nothing has been opened. -/
def fresh (clock : ManualClock) (template : Template) : Rack where
  clock := clock
  template := template

/-- The seat and the handle that a reply reports as opened. -/
def Entry.opened? : Entry → Option (Nat × Handle)
  | .entered (.ok place) _ => some place
  | .entered (.error _) _ | .clock _ | .named _ _ | .counted _ | .seat _ _ => none
  | .dropped | .noSuchSeat | .noTable => none

/-- The seat that a step has closed, according to its reply. -/
def Step.closed? (step : Step) (entry : Entry) : Option Nat :=
  match step, entry with
  | .table (.close seat), .seat .closed _ => some seat
  | _, _ => none

/-- What was opened in a run. -/
def opened (rack : Rack) : List Step → List (Nat × Handle)
  | [] => []
  | step :: rest => (rack.step step).2.opened?.toList ++ (rack.step step).1.opened rest

/-- What was closed in a run. -/
def closed (rack : Rack) : List Step → List Nat
  | [] => []
  | step :: rest => (step.closed? (rack.step step).2).toList ++ (rack.step step).1.closed rest

/-- What a step does to a rack, with the seat and the handle that it opens and the seat that it
closes. A step on a deck may come through a handle or past the table. -/
inductive Turn (rack : Rack) : Rack → Option (Nat × Handle) → Option Nat → Prop where
  | unchanged : Turn rack rack none none
  | clocked (clock : ManualClock) : Turn rack { rack with clock := clock } none none
  | stepped (seat : Nat) (found : Seat) (step : Deck.Step)
      (placed : rack.seats[seat]? = some found) :
      Turn rack (rack.putDeck seat (found.deck.step rack.clock.now step).1) none none
  | opened (table : StreamTable Nat) (stream : UInt32) (device : Device)
      (present : rack.table = some table) (free : table.lookup stream = none)
      (built : rack.template.build rack.clock.ticksPerSecond = .ok device) :
      Turn rack
        { rack with
          table := some (table.enter stream rack.seats.length).2
          seats := rack.seats ++
            [⟨(table.enter stream rack.seats.length).1, { device := device }⟩] }
        (some (rack.seats.length, (table.enter stream rack.seats.length).1)) none
  | closed (table next : StreamTable Nat) (named seat : Nat) (found : Seat)
      (present : rack.table = some table) (placed : rack.seats[seat]? = some found)
      (removed : table.remove found.handle = .ok (named, next)) :
      Turn rack
        { rack with
          table := some next
          seats := rack.seats.modify named fun found => { found with deck := found.deck.free } }
        none (some seat)
  | dropped (table : StreamTable Nat) (present : rack.table = some table) :
      Turn rack (rack.drop table) none none

theorem handles_modify (seats : List Seat) (seat : Nat) (change : Deck → Deck) :
    (seats.modify seat fun found => { found with deck := change found.deck }).map Seat.handle =
      seats.map Seat.handle := by
  apply List.ext_getElem?
  intro index
  rw [List.getElem?_map, List.getElem?_map, List.getElem?_modify]
  cases seats[index]? with
  | none => rfl
  | some found => by_cases same : seat = index <;> simp [same]

theorem seats_putDeck {rack : Rack} {seat : Nat} {found : Seat}
    (placed : rack.seats[seat]? = some found) (change : Deck → Deck) :
    (rack.seats.modify seat fun found => { found with deck := change found.deck }) =
      (rack.putDeck seat (change found.deck)).seats := by
  apply List.ext_getElem?
  intro index
  rw [putDeck, List.getElem?_modify, List.getElem?_modify]
  by_cases same : seat = index
  · subst same
    simp [placed]
  · simp [same]

theorem handles_drop (rack : Rack) (table : StreamTable Nat) :
    (rack.drop table).seats.map Seat.handle = rack.seats.map Seat.handle := by
  unfold drop
  generalize rack.seats = seats
  simp only
  induction table.values generalizing seats with
  | nil => rfl
  | cons seat rest ih => exact (ih _).trans (handles_modify seats seat Deck.free)

theorem serve_turn {rack : Rack} {table : StreamTable Nat} (present : rack.table = some table)
    (request : Request) :
    rack.Turn (rack.serve table request).1 (rack.serve table request).2.opened?
      (Step.closed? (.table request) (rack.serve table request).2) := by
  cases request with
  | enter stream =>
      rw [serve, enter]
      cases free : table.lookup stream with
      | some _ => exact .unchanged
      | none =>
          cases built : rack.template.build rack.clock.ticksPerSecond with
          | error cause => exact .unchanged
          | ok device => exact .opened table stream device present free built
  | lookup stream => exact .unchanged
  | count => exact .unchanged
  | close seat =>
      rw [serve]
      cases placed : rack.seats[seat]? with
      | none => exact .unchanged
      | some found =>
          simp only [close]
          cases removed : table.remove found.handle with
          | error cause =>
              simp only [seatEntry, placed]
              exact .unchanged
          | ok result =>
              obtain ⟨named, next⟩ := result
              have still : ∃ left, (rack.seats.modify named fun found =>
                  { found with deck := found.deck.free })[seat]? = some left := by
                rw [List.getElem?_modify, placed]
                exact ⟨_, rfl⟩
              obtain ⟨left, remains⟩ := still
              simp only [seatEntry, remains]
              exact .closed table next named seat found present placed removed
  | find seat =>
      rw [serve]
      cases placed : rack.seats[seat]? with
      | none => exact .unchanged
      | some found =>
          simp only [seatEntry, placed]
          cases table.find? found.handle with
          | none | some => exact .unchanged
  | call seat call =>
      rw [serve]
      cases placed : rack.seats[seat]? with
      | none => exact .unchanged
      | some found =>
          simp only
          cases table.find? found.handle with
          | none =>
              simp only [seatEntry, placed]
              exact .unchanged
          | some named =>
              simp only
              cases holds : rack.seats[named]? with
              | none => exact .unchanged
              | some target => exact .stepped named target (.call call) holds
  | drop => exact .dropped table present

theorem step_turn (rack : Rack) (step : Step) :
    rack.Turn (rack.step step).1 (rack.step step).2.opened? (step.closed? (rack.step step).2) := by
  cases step with
  | clock move => exact .clocked _
  | direct seat step =>
      rw [Rack.step]
      cases placed : rack.seats[seat]? with
      | none => exact .unchanged
      | some found => exact .stepped seat found step placed
  | table request =>
      rw [Rack.step]
      cases present : rack.table with
      | none => cases request <;> exact .unchanged
      | some table => exact serve_turn present request

/-- The handles of the seats, closed or not, are those given out so far, and the table knows which
were closed. -/
structure Tracks (rack : Rack) (issued : List Handle) (gone : List Nat) : Prop where
  handles : rack.seats.map Seat.handle = issued
  unique : issued.Nodup
  sound : ∀ table, rack.table = some table → table.Sound issued gone
  compact : ∀ table, rack.table = some table → table.slots.length ≤ issued.length

namespace Tracks

variable {rack : Rack} {issued : List Handle} {gone : List Nat}

theorem given (tracks : rack.Tracks issued gone) {seat : Nat} {found : Seat}
    (placed : rack.seats[seat]? = some found) : issued[seat]? = some found.handle := by
  rw [← tracks.handles, List.getElem?_map, placed]
  rfl

/-- Nothing is opened or closed as long as the handles and the table stay, or the table goes. -/
theorem kept (tracks : rack.Tracks issued gone) {next : Rack}
    (same : next.seats.map Seat.handle = rack.seats.map Seat.handle)
    (table : ∀ left, next.table = some left → rack.table = some left) :
    next.Tracks issued gone := by
  obtain ⟨handles, unique, sound, compact⟩ := tracks
  exact ⟨same.trans handles, unique, fun left present => sound left (table left present),
    fun left present => compact left (table left present)⟩

theorem turn (tracks : rack.Tracks issued gone) (few : issued.length < handleLimit) {next : Rack}
    {opening : Option (Nat × Handle)} {closing : Option Nat}
    (turn : rack.Turn next opening closing) :
    next.Tracks (issued ++ (opening.map Prod.snd).toList) (gone ++ closing.toList) ∧
      ∀ seat, opening.map Prod.fst = some seat → seat = issued.length := by
  have count : rack.seats.length = issued.length := by rw [← tracks.handles, List.length_map]
  cases turn with
  | unchanged | clocked =>
      simp only [Option.map_none, Option.toList_none, List.append_nil]
      exact ⟨tracks.kept rfl fun _ => id, nofun⟩
  | stepped seat found step placed =>
      simp only [Option.map_none, Option.toList_none, List.append_nil]
      exact ⟨tracks.kept (handles_modify rack.seats seat fun _ => _) fun _ => id, nofun⟩
  | dropped table present =>
      simp only [Option.map_none, Option.toList_none, List.append_nil]
      exact ⟨tracks.kept (rack.handles_drop table) nofun, nofun⟩
  | opened table stream device present free built =>
      obtain ⟨handles, unique, sound, compact⟩ := tracks
      obtain ⟨fresh, entered, fits⟩ :=
        (sound table present).enter (compact table present) few stream
      rw [count]
      simp only [Option.map_some, Option.toList_some, Option.toList_none, List.append_nil]
      refine ⟨⟨?_, ?_, ?_, ?_⟩, ?_⟩
      · simp [handles]
      · rw [List.nodup_append]
        refine ⟨unique, by simp, ?_⟩
        rintro handle member _ (_ | ⟨_, ⟨⟩⟩) rfl
        exact fresh member
      · rintro _ ⟨⟩
        exact entered
      · rintro _ ⟨⟩
        rw [List.length_append]
        exact fits
      · rintro _ ⟨⟩
        rfl
  | closed table next named seat found present placed removed =>
      have given := tracks.given placed
      obtain ⟨handles, unique, sound, compact⟩ := tracks
      have kept : seat ∉ gone := by
        intro member
        rw [(sound table present).remove_of_closed given member] at removed
        cases removed
      obtain ⟨left, removes, still, length⟩ := (sound table present).remove few given kept
      cases removed.symm.trans removes
      simp only [Option.map_none, Option.toList_none, List.append_nil, Option.toList_some]
      refine ⟨⟨?_, unique, ?_, ?_⟩, nofun⟩
      · exact (handles_modify rack.seats _ Deck.free).trans handles
      · rintro _ ⟨⟩
        exact still
      · rintro _ ⟨⟩
        rw [length]
        exact compact table present

/-- The same for a run in which not too many devices are opened. They take the next seats one after
another. -/
theorem run (tracks : rack.Tracks issued gone) (steps : List Step)
    (few : issued.length + (rack.opened steps).length < handleLimit) :
    (rack.run steps).1.Tracks (issued ++ (rack.opened steps).map Prod.snd)
        (gone ++ rack.closed steps) ∧
      (rack.opened steps).map Prod.fst =
        List.range' issued.length (rack.opened steps).length := by
  induction steps generalizing rack issued gone with
  | nil =>
      rw [opened, closed, List.map_nil, List.append_nil, List.append_nil]
      exact ⟨tracks, rfl⟩
  | cons step rest ih =>
      obtain ⟨next, place⟩ := tracks.turn (by omega) (rack.step_turn step)
      rw [opened] at few ⊢
      rw [closed]
      cases opening : (rack.step step).2.opened? with
      | none =>
          simp only [opening, Option.toList_none, List.nil_append, Option.map_none,
            List.append_nil] at few next ⊢
          obtain ⟨last, seats⟩ := ih next few
          rw [List.append_assoc] at last
          exact ⟨last, seats⟩
      | some named =>
          simp only [opening, Option.toList_some, Option.map_some, List.cons_append,
            List.nil_append, List.length_cons, List.map_cons] at few next place ⊢
          obtain ⟨last, seats⟩ := ih next (by rw [List.length_append, List.length_singleton]; omega)
          rw [List.append_assoc, List.append_assoc] at last
          rw [List.length_append, List.length_singleton] at seats
          refine ⟨last, ?_⟩
          rw [place named.1 rfl, seats, List.range'_succ]

end Tracks

/-- The handle of a seat reaches the deck of this seat: a call through it is a call on this deck,
and closing it frees this deck and no other. -/
structure Reaches (rack : Rack) (seat : Nat) (deck : Deck) : Prop where
  find : rack.step (.table (.find seat)) = (rack, .seat (.found true) (deck.view [] []))
  call : ∀ call, rack.step (.table (.call seat call)) =
    (rack.putDeck seat (deck.call rack.clock.now call).1,
      .seat (.deck (.answered (deck.call rack.clock.now call).2.1))
        (deck.call rack.clock.now call).2.2)
  close : (rack.step (.table (.close seat))).1.seats = (rack.putDeck seat deck.free).seats ∧
    (rack.step (.table (.close seat))).2 = .seat .closed (deck.free.view [] [])

/-- The handle of a seat reaches nothing: whatever is tried with it is refused and changes nothing. -/
structure Stale (rack : Rack) (seat : Nat) (handle : Handle) (deck : Deck) : Prop where
  find : rack.step (.table (.find seat)) =
    (rack, .seat (.refused (.unknownHandle handle)) (deck.view [] []))
  call : ∀ call, rack.step (.table (.call seat call)) =
    (rack, .seat (.refused (.unknownHandle handle)) (deck.view [] []))
  close : rack.step (.table (.close seat)) =
    (rack, .seat (.refused (.unknownHandle handle)) (deck.view [] []))

namespace Tracks

variable {rack : Rack} {issued : List Handle} {gone : List Nat} {table : StreamTable Nat}
  {seat : Nat} {found : Seat}

theorem reaches (tracks : rack.Tracks issued gone) (few : issued.length < handleLimit)
    (present : rack.table = some table) (placed : rack.seats[seat]? = some found)
    (kept : seat ∉ gone) : rack.Reaches seat found.deck := by
  have sound := tracks.sound table present
  have named := sound.find?_of_open (tracks.given placed) kept
  obtain ⟨next, removed, _, _⟩ := sound.remove few (tracks.given placed) kept
  refine ⟨?_, ?_, ?_⟩
  · simp [step, present, serve, placed, named, seatEntry]
  · intro call
    simp only [step, present, serve, placed, named]
  · have freed : (rack.putDeck seat found.deck.free).seats[seat]? =
        some { found with deck := found.deck.free } := by
      simp [putDeck, placed]
    simp only [step, present, serve, placed, close, removed, seatEntry,
      seats_putDeck placed Deck.free, freed, and_self]

theorem stale (tracks : rack.Tracks issued gone) (present : rack.table = some table)
    (placed : rack.seats[seat]? = some found) (closed : seat ∈ gone) :
    rack.Stale seat found.handle found.deck := by
  have sound := tracks.sound table present
  have unnamed := sound.find?_of_closed (tracks.given placed) closed
  have refused := sound.remove_of_closed (tracks.given placed) closed
  refine ⟨?_, ?_, ?_⟩
  · simp only [step, present, serve, placed, unnamed, seatEntry]
  · intro call
    simp only [step, present, serve, placed, unnamed, seatEntry]
  · simp only [step, present, serve, placed, close, refused, seatEntry]

end Tracks

theorem getElem?_of_mem_opened {places : List (Nat × Handle)}
    (numbered : places.map Prod.fst = List.range' 0 places.length) {seat : Nat} {handle : Handle}
    (member : (seat, handle) ∈ places) : (places.map Prod.snd)[seat]? = some handle := by
  obtain ⟨index, found⟩ := List.mem_iff_getElem?.mp member
  have within := (List.getElem?_eq_some_iff.mp found).1
  have first : (places.map Prod.fst)[index]? = some seat := by
    rw [List.getElem?_map, found]
    rfl
  rw [numbered, List.getElem?_range' within] at first
  have same : index = seat := by simpa using first
  rw [List.getElem?_map, ← same, found]
  rfl

/-- Handles never alias and never go stale silently, in every run in which fewer devices are opened
than a word of 32 bits can count. All handles given out differ, and the devices take seats of their
own, one after another. As long as the table is there, the handle of a seat that was not closed
reaches the deck of this seat, and the handle of one that was closed is refused and changes nothing,
however often its slot was used since. -/
theorem handles_never_alias (clock : ManualClock) (template : Template) (steps : List Step)
    (few : ((fresh clock template).opened steps).length < handleLimit) :
    (((fresh clock template).opened steps).map Prod.snd).Nodup ∧
      ((fresh clock template).opened steps).map Prod.fst =
        List.range' 0 ((fresh clock template).opened steps).length ∧
      ∀ seat handle, (seat, handle) ∈ (fresh clock template).opened steps →
        ∃ found, ((fresh clock template).run steps).1.seats[seat]? = some found ∧
          found.handle = handle ∧
          ∀ table, ((fresh clock template).run steps).1.table = some table →
            (seat ∉ (fresh clock template).closed steps →
              ((fresh clock template).run steps).1.Reaches seat found.deck) ∧
            (seat ∈ (fresh clock template).closed steps →
              ((fresh clock template).run steps).1.Stale seat handle found.deck) := by
  have initial : (fresh clock template).Tracks [] [] := by
    refine ⟨rfl, .nil, ?_, ?_⟩
    · rintro _ ⟨⟩
      exact .initial
    · rintro _ ⟨⟩
      exact Nat.le_refl 0
  obtain ⟨tracks, numbered⟩ := initial.run steps (by rw [List.length_nil, Nat.zero_add]; exact few)
  rw [List.nil_append, List.nil_append] at tracks
  refine ⟨tracks.unique, numbered, ?_⟩
  intro seat handle member
  have given := getElem?_of_mem_opened numbered member
  rw [← tracks.handles, List.getElem?_map, Option.map_eq_some_iff] at given
  obtain ⟨found, placed, rfl⟩ := given
  refine ⟨found, placed, rfl, fun table present => ⟨?_, ?_⟩⟩
  · exact tracks.reaches (by rw [List.length_map]; exact few) present placed
  · exact tracks.stale present placed

/-- A slot in its third use. The two handles that named it before are refused, also after one more
attempt to close with them, and the third reaches the deck opened last under it. -/
theorem handles_never_alias_reused :
    ∃ (rack : Rack) (steps : List Step) (first second third : Seat),
      rack = fresh ⟨1000, 7⟩ {} ∧
        rack.opened steps = [(0, ⟨0, 0⟩), (1, ⟨0, 1⟩), (2, ⟨0, 2⟩), (3, ⟨1, 0⟩)] ∧
        rack.closed steps = [0, 1] ∧
        (rack.run steps).1.Stale 0 ⟨0, 0⟩ first.deck ∧
        (rack.run steps).1.Stale 1 ⟨0, 1⟩ second.deck ∧
        (rack.run steps).1.Reaches 2 third.deck ∧ third.deck.device.stage = .prepared := by
  let clock : ManualClock := ⟨1000, 7⟩
  let template : Template := {}
  let steps : List Step :=
    [.table (.enter 5), .table (.call 0 (.prepare ⟨8000, 4000, 1000⟩)), .table (.close 0),
      .table (.enter 5), .direct 0 (.call .start), .table (.close 1), .table (.enter 9),
      .table (.call 2 (.prepare ⟨8000, 4000, 1000⟩)), .table (.enter 5),
      .table (.call 1 .start), .table (.close 0)]
  have opened : (fresh clock template).opened steps =
      [(0, ⟨0, 0⟩), (1, ⟨0, 1⟩), (2, ⟨0, 2⟩), (3, ⟨1, 0⟩)] := by decide +kernel
  have closed : (fresh clock template).closed steps = [0, 1] := by decide +kernel
  have prepared : ((fresh clock template).run steps).1.seats[2]?.map (·.deck.device.stage) =
      some .prepared := by decide +kernel
  obtain ⟨table, present⟩ : ∃ table, ((fresh clock template).run steps).1.table = some table :=
    Option.isSome_iff_exists.mp (by decide +kernel)
  have law := handles_never_alias clock template steps (by rw [opened]; decide)
  rw [opened, closed] at law
  obtain ⟨_, _, every⟩ := law
  obtain ⟨first, _, _, refused⟩ := every 0 ⟨0, 0⟩ (by decide)
  obtain ⟨second, _, _, denied⟩ := every 1 ⟨0, 1⟩ (by decide)
  obtain ⟨third, placed, _, reached⟩ := every 2 ⟨0, 2⟩ (by decide)
  rw [placed] at prepared
  exact ⟨fresh clock template, steps, first, second, third, rfl, opened, closed,
    (refused table present).2 (by decide), (denied table present).2 (by decide),
    (reached table present).1 (by decide), Option.some.inj prepared⟩

end Rack

end PcmPlayback
