import PcmPlayback.Proofs.Occupancy
import PcmPlayback.Proofs.Silence

/-!
# Closing

Closing a handle frees the device that was opened under it, whatever became of the device before,
and no other. Giving up the table frees all that are left. A device that was freed stays freed: its
timer is off, and nobody hears of it again.
-/

set_option autoImplicit false

namespace PcmPlayback

/-- A device that was freed and is at rest. -/
structure Device.TornDown (device : Device) : Prop where
  freed : device.stage = .freed
  lowered : device.active = false
  disarmed : device.expiry = none

namespace Device.TornDown

variable {device : Device}

theorem free (device : Device) : device.free.TornDown := ⟨rfl, rfl, rfl⟩

theorem answer (torn : device.TornDown) (now : Tick) (call : Call) :
    (device.answer now call).1.TornDown := by
  have effect := device.answer_effect now call
  obtain ⟨freed, disarmed, _⟩ := effect.of_freed torn.freed torn.disarmed
  refine ⟨freed, ?_, disarmed⟩
  generalize (device.answer now call).1 = next at effect freed
  generalize device.event? now call = event at effect
  cases effect with
  | unchanged | rerouted | prepared | misstarted | read => exact torn.lowered
  | started _ _ allowed => simp [torn.freed, Stage.mayStart] at allowed
  | lowered | stopped | jammed | freed => rfl

theorem poll_eq (torn : device.TornDown) (now : Tick) : device.poll now = (device, none) :=
  poll_of_disarmed torn.disarmed now

end Device.TornDown

namespace Deck

/-- What a step does to the device of a deck. Waiters do nothing to it. -/
theorem device_step (deck : Deck) (now : Tick) (step : Step) :
    (deck.step now step).1.device =
      match step with
      | .call call => (deck.device.answer now call).1
      | .poll => (deck.device.poll now).1
      | .join | .tryWait _ | .waitFor _ _ | .wait _ | .total _ => deck.device := by
  have still := @step_of_waiter deck now step
  cases step with
  | call | poll => rfl
  | join | tryWait | waitFor | wait | total => exact (still (by simp) (by simp)).1

/-- A deck of which nothing comes any more: its device was freed, and what was delivered so far is
all. -/
def Ended (delivery : Delivery) (deck : Deck) : Prop :=
  deck.device.TornDown ∧ deck.device.delivery = delivery

namespace Ended

variable {delivery : Delivery} {deck : Deck}

theorem free (ended : deck.Ended delivery) : deck.free.Ended delivery :=
  ⟨.free deck.device, ended.2⟩

theorem step (ended : deck.Ended delivery) (now : Tick) (step : Step) :
    (deck.step now step).1.Ended delivery := by
  obtain ⟨torn, delivered⟩ := ended
  rw [Ended, device_step]
  cases step with
  | call call =>
      exact ⟨torn.answer now call, (deck.device.answer_effect now call).delivery_eq.trans delivered⟩
  | poll =>
      simp only [torn.poll_eq now]
      exact ⟨torn, delivered⟩
  | join | tryWait | waitFor | wait | total => exact ⟨torn, delivered⟩

/-- No step shows a run of a callback or a sleeping timer. -/
theorem view (ended : deck.Ended delivery) (now : Tick) (step : Step) :
    (deck.step now step).2.2 = ⟨.freed, false, delivery.periods, [], []⟩ := by
  obtain ⟨torn, delivered⟩ := ended.step now step
  obtain ⟨runs, waits, shown, quiet⟩ := deck.view_step now step
  obtain ⟨rfl, rfl⟩ := quiet ended.1.disarmed torn.disarmed
  rw [shown, Deck.view, torn.freed, torn.lowered, delivered]

end Ended

end Deck

namespace Rack

variable {rack next : Rack} {opening : Option (Nat × Handle)} {closing : Option Nat} {seat : Nat}
  {found : Seat}

/-- Giving up the table frees the decks that it keeps, and leaves the others alone. -/
theorem getElem?_drop (rack : Rack) (table : StreamTable Nat) (seat : Nat) :
    (rack.drop table).seats[seat]? =
      if seat ∈ table.values then
        rack.seats[seat]?.map fun found => { found with deck := found.deck.free }
      else rack.seats[seat]? := by
  unfold drop
  generalize rack.seats = seats
  simp only
  induction table.values generalizing seats with
  | nil => simp
  | cons freed rest ih =>
      rw [List.foldl_cons, ih, List.getElem?_modify]
      by_cases same : freed = seat
      · subst same
        cases seats[freed]? with
        | none => simp
        | some found =>
            -- a deck that is freed twice is freed
            have again : found.deck.free.free = found.deck.free := rfl
            simp [again]
      · have other : seat ≠ freed := fun here => same here.symm
        simp [same, other]

theorem getElem?_putDeck {rack : Rack} {seat : Nat} (deck : Deck) (other : Nat) :
    (rack.putDeck seat deck).seats[other]? =
      if seat = other then rack.seats[other]?.map fun found => { found with deck := deck }
      else rack.seats[other]? := by
  rw [putDeck, List.getElem?_modify]
  split
  · rfl
  · exact Option.map_id'

/-- What is true of a deck whatever is done with it stays true through a step of its rack. -/
theorem Turn.carries {Lasting : Deck → Prop}
    (stepped : ∀ deck now step, Lasting deck → Lasting (deck.step now step).1)
    (freed : ∀ deck, Lasting deck → Lasting deck.free) (turn : rack.Turn next opening closing)
    (placed : rack.seats[seat]? = some found) (holds : Lasting found.deck) :
    ∃ left, next.seats[seat]? = some left ∧ Lasting left.deck := by
  cases turn with
  | unchanged | clocked => exact ⟨found, placed, holds⟩
  | stepped other own step there =>
      rw [getElem?_putDeck]
      split
      · next same =>
          rw [same, placed] at there
          cases there
          exact ⟨_, by rw [placed]; rfl, stepped _ _ _ holds⟩
      · exact ⟨found, placed, holds⟩
  | opened table stream device =>
      refine ⟨found, ?_, holds⟩
      exact (List.getElem?_append_left (List.getElem?_eq_some_iff.mp placed).1).trans placed
  | closed table rest named own there =>
      rw [List.getElem?_modify, placed]
      by_cases same : named = seat
      · exact ⟨{ found with deck := found.deck.free }, by simp [same], freed _ holds⟩
      · exact ⟨found, by simp [same], holds⟩
  | dropped table =>
      rw [getElem?_drop, placed]
      split
      · exact ⟨_, rfl, freed _ holds⟩
      · exact ⟨found, rfl, holds⟩

/-- A rack at rest but for the devices that are open: those that were closed are torn down, and all
are once the table is gone. -/
structure Rests (rack : Rack) (issued : List Handle) (gone : List Nat) : Prop where
  past : ∀ seat ∈ gone, seat < issued.length
  torn : ∀ seat < issued.length, seat ∈ gone ∨ rack.table = none →
    ∃ found, rack.seats[seat]? = some found ∧ found.deck.device.TornDown

theorem Rests.turn {issued : List Handle} {streams : List UInt32} {gone : List Nat}
    (rests : rack.Rests issued gone) (books : rack.Books issued streams gone)
    (turn : rack.Turn next opening closing) :
    next.Rests (issued ++ (opening.map Prod.snd).toList) (gone ++ closing.toList) := by
  obtain ⟨past, torn⟩ := rests
  have count := books.tracks.count
  have carried (seat : Nat) (inside : seat < issued.length)
      (out : seat ∈ gone ∨ rack.table = none) :
      ∃ left, next.seats[seat]? = some left ∧ left.deck.device.TornDown := by
    obtain ⟨found, placed, spent⟩ := torn seat inside out
    have stepped (deck : Deck) (now : Tick) (step : Deck.Step) (torn : deck.device.TornDown) :
        (deck.step now step).1.device.TornDown := (Deck.Ended.step ⟨torn, rfl⟩ now step).1
    have freed (deck : Deck) (_ : deck.device.TornDown) : deck.free.device.TornDown :=
      .free deck.device
    exact turn.carries stepped freed placed spent
  cases turn with
  | unchanged | clocked | stepped =>
      simp only [Option.map_none, Option.toList_none, List.append_nil]
      exact ⟨past, carried⟩
  | opened table stream device present =>
      simp only [Option.map_some, Option.toList_some, Option.toList_none, List.append_nil]
      refine ⟨fun seat out => ?_, fun seat _ out => ?_⟩
      · rw [List.length_append]
        exact Nat.lt_succ_of_lt (past seat out)
      · rcases out with out | none
        · exact carried seat (past seat out) (.inl out)
        · cases none
  | closed table rest named own there present placed removed =>
      simp only [Option.map_none, Option.toList_none, List.append_nil, Option.toList_some]
      have same := books.named_eq present placed removed
      subst same
      have inside : named < issued.length := count ▸ (List.getElem?_eq_some_iff.mp placed).1
      refine ⟨fun seat out => ?_, fun seat here out => ?_⟩
      · rcases List.mem_append.mp out with before | now
        · exact past seat before
        · exact List.mem_singleton.mp now ▸ inside
      · rcases out with out | none
        · rcases List.mem_append.mp out with before | now
          · exact carried seat here (.inl before)
          · rw [List.mem_singleton.mp now, List.getElem?_modify, placed]
            exact ⟨{ there with deck := there.deck.free }, by simp, .free _⟩
        · cases none
  | dropped table present =>
      simp only [Option.map_none, Option.toList_none, List.append_nil]
      refine ⟨past, fun seat inside _ => ?_⟩
      by_cases out : seat ∈ gone
      · exact carried seat inside (.inl out)
      · have listed := (books.mem_values_iff present seat).mpr ⟨inside, out⟩
        rw [getElem?_drop, if_pos listed, List.getElem?_eq_getElem (count ▸ inside)]
        exact ⟨_, rfl, .free _⟩

theorem fresh_rests (clock : ManualClock) (template : Template) (steps : List Step)
    (few : ((fresh clock template).opened steps).length < handleLimit) :
    ((fresh clock template).run steps).1.Rests (((fresh clock template).opened steps).map Prod.snd)
      ((fresh clock template).closed steps) := by
  induction steps using List.reverseRecOn with
  | nil => exact ⟨nofun, nofun⟩
  | append_singleton steps step ih =>
      have fewer := Nat.lt_of_le_of_lt (opened_append_le _ steps [step]) few
      have rests := (ih fewer).turn (fresh_books clock template steps fewer)
        (((fresh clock template).run steps).1.step_turn step)
      rw [run_concat, handles_concat, closed_concat]
      exact rests

/-- What is true of a deck whatever is done with it stays true in every run of its rack. -/
theorem run_carries {Lasting : Deck → Prop}
    (stepped : ∀ deck now step, Lasting deck → Lasting (deck.step now step).1)
    (freed : ∀ deck, Lasting deck → Lasting deck.free) {rack : Rack} {seat : Nat} {found : Seat}
    (placed : rack.seats[seat]? = some found) (holds : Lasting found.deck) (steps : List Step) :
    ∃ left, (rack.run steps).1.seats[seat]? = some left ∧ Lasting left.deck := by
  induction steps generalizing rack found with
  | nil => exact ⟨found, placed, holds⟩
  | cons step rest ih =>
      obtain ⟨left, there, lasts⟩ := (rack.step_turn step).carries stepped freed placed holds
      exact ih there lasts

/-- A rack that has no table any more, and of which nothing comes any more. -/
def Spent (rack : Rack) : Prop :=
  rack.table = none ∧ ∀ (seat : Nat) (found : Seat), rack.seats[seat]? = some found →
    found.deck.device.TornDown

namespace Spent

theorem step (spent : rack.Spent) (step : Step) :
    (rack.step step).1.Spent ∧ ∀ reply view, (rack.step step).2 = .seat reply view →
      view.stage = .freed ∧ view.active = false ∧ view.runs = [] ∧ view.waits = [] := by
  obtain ⟨gone, torn⟩ := spent
  cases step with
  | clock move => simpa [Rack.step, Spent, gone] using torn
  | table request => simpa [Rack.step, Spent, gone] using torn
  | direct seat step =>
      rw [Rack.step]
      cases placed : rack.seats[seat]? with
      | none => simpa [Spent, gone] using torn
      | some found =>
          have ended : found.deck.Ended found.deck.device.delivery := ⟨torn seat found placed, rfl⟩
          refine ⟨⟨gone, fun other left there => ?_⟩, fun reply view same => ?_⟩
          · rw [getElem?_putDeck] at there
            split at there
            · obtain ⟨own, _, rfl⟩ := Option.map_eq_some_iff.mp there
              exact (ended.step rack.clock.now step).1
            · exact torn other left there
          · obtain ⟨_, rfl⟩ := Entry.seat.inj same
            rw [ended.view]
            exact ⟨rfl, rfl, rfl, rfl⟩

theorem run (spent : rack.Spent) (steps : List Step) :
    ∀ reply view, .seat reply view ∈ (rack.run steps).2 →
      view.stage = .freed ∧ view.active = false ∧ view.runs = [] ∧ view.waits = [] := by
  induction steps generalizing rack with
  | nil => simp [Rack.run]
  | cons step rest ih =>
      obtain ⟨next, quiet⟩ := spent.step step
      intro reply view member
      rcases List.mem_cons.mp member with here | later
      · exact quiet reply view here.symm
      · exact ih next reply view later

end Spent

theorem step_drop_table (rack : Rack) : (rack.step (.table .drop)).1.table = none := by
  rw [step]
  cases present : rack.table with
  | none => exact present
  | some table => rfl

/-- Closing a seat leaves every other one as it is. -/
theorem Books.step_close_other {issued : List Handle} {streams : List UInt32} {gone : List Nat}
    (books : rack.Books issued streams gone) {other : Nat} (apart : other ≠ seat) :
    (rack.step (.table (.close seat))).1.seats[other]? = rack.seats[other]? := by
  rw [Rack.step]
  cases present : rack.table with
  | none => rfl
  | some table =>
      simp only [serve]
      cases placed : rack.seats[seat]? with
      | none => rfl
      | some found =>
          simp only [close]
          cases removed : table.remove found.handle with
          | error cause => rfl
          | ok left =>
              obtain ⟨named, rest⟩ := left
              have same := books.named_eq present placed removed
              simp only [same, List.getElem?_modify, if_neg apart.symm]
              exact id_map _

/-- Once the table is gone nothing is opened. -/
theorem Spent.opened (spent : rack.Spent) (steps : List Step) : rack.opened steps = [] := by
  induction steps generalizing rack with
  | nil => rfl
  | cons step rest ih =>
      rw [Rack.opened, ih (spent.step step).1, List.append_nil, Option.toList_eq_nil_iff]
      cases opening : (rack.step step).2.opened? with
      | none => rfl
      | some place =>
          obtain ⟨table, _, present, _⟩ := step_opened opening
          cases spent.1.symm.trans present

/-- What is left of a rack that was dropped, and of what is tried with it later. All devices opened
in it are freed, and no period is delivered any more. No poll runs a callback, and no step shows a
run or a timer that goes to sleep. -/
structure Disposed (rack : Rack) (steps later : List Step) : Prop where
  ended : ∀ seat handle, (seat, handle) ∈ rack.opened (steps ++ later) →
    ∃ first last, (rack.run steps).1.seats[seat]? = some first ∧
      (rack.run (steps ++ later)).1.seats[seat]? = some last ∧ first.deck.device.TornDown ∧
      last.deck.Ended first.deck.device.delivery ∧
      ∀ now, last.deck.device.poll now = (last.deck.device, none)
  quiet : ∀ reply view, .seat reply view ∈ ((rack.run steps).1.run later).2 →
    view.stage = .freed ∧ view.active = false ∧ view.runs = [] ∧ view.waits = []

theorem fresh_disposed (clock : ManualClock) (template : Template) (steps later : List Step)
    (few : ((fresh clock template).opened steps).length < handleLimit)
    (gone : ((fresh clock template).run steps).1.table = none) :
    (fresh clock template).Disposed steps later := by
  obtain ⟨tracks, numbered⟩ := fresh_tracks clock template steps few
  have rests := fresh_rests clock template steps few
  have spent : ((fresh clock template).run steps).1.Spent := by
    refine ⟨gone, fun seat found placed => ?_⟩
    obtain ⟨left, there, torn⟩ :=
      rests.torn seat (tracks.count ▸ (List.getElem?_eq_some_iff.mp placed).1) (.inr gone)
    cases placed.symm.trans there
    exact torn
  refine ⟨fun seat handle member => ?_, spent.run later⟩
  rw [opened_append, spent.opened, List.append_nil] at member
  have given := getElem?_of_mem_opened numbered member
  rw [← tracks.handles, List.getElem?_map, Option.map_eq_some_iff] at given
  obtain ⟨first, placed, _⟩ := given
  have torn := spent.2 seat first placed
  have ended : first.deck.Ended first.deck.device.delivery := ⟨torn, rfl⟩
  obtain ⟨last, there, silent⟩ := run_carries (fun _ now step holds => holds.step now step)
    (fun _ holds => holds.free) placed ended later
  rw [run_append]
  exact ⟨first, last, placed, there, torn, silent, silent.1.poll_eq⟩

/-- Closing tears down, in every run in which fewer devices are opened than a word of 32 bits can
count. A device that was closed is freed for good, whatever was done with it before or is tried
later; to close one leaves every other as it is; and dropping the rack ends them all. -/
theorem closing_tears_down (clock : ManualClock) (template : Template) (steps : List Step)
    (few : ((fresh clock template).opened steps).length < handleLimit) :
    (∀ seat ∈ (fresh clock template).closed steps, ∃ found,
      ((fresh clock template).run steps).1.seats[seat]? = some found ∧
        found.deck.device.TornDown) ∧
      (∀ seat other, other ≠ seat →
        (((fresh clock template).run steps).1.step (.table (.close seat))).1.seats[other]? =
          ((fresh clock template).run steps).1.seats[other]?) ∧
      ∀ before later, steps = before ++ .table .drop :: later →
        (fresh clock template).Disposed (before ++ [.table .drop]) later := by
  have rests := fresh_rests clock template steps few
  refine ⟨fun seat out => rests.torn seat (rests.past seat out) (.inl out), ?_, ?_⟩
  · intro seat other apart
    exact (fresh_books clock template steps few).step_close_other apart
  · rintro before later rfl
    rw [List.append_cons] at few
    refine fresh_disposed clock template _ later
      (Nat.lt_of_le_of_lt (opened_append_le _ _ later) few) ?_
    rw [run_concat]
    exact step_drop_table _

/-- Three devices are closed, the first while it runs, the second once it was stopped and started
again, the third after it was freed past the table. A fourth runs when the rack is dropped. The
clock passes its next boundary, it is polled and started again, and its waiter still has nothing to
wake for. -/
theorem closing_tears_down_restarted :
    ∃ (before later : List Step) (found : Seat),
      ((fresh ⟨1000, 7⟩ {}).opened (before ++ .table .drop :: later)).length = 4 ∧
        (fresh ⟨1000, 7⟩ {}).closed (before ++ .table .drop :: later) = [0, 1, 2] ∧
        ((fresh ⟨1000, 7⟩ {}).run before).1.seats.map (·.deck.device.stage) =
          [.freed, .freed, .freed, .running] ∧
        ((fresh ⟨1000, 7⟩ {}).run (before ++ .table .drop :: later)).1.seats[1]? = some found ∧
        found.deck.device.TornDown ∧
        (fresh ⟨1000, 7⟩ {}).Disposed (before ++ [.table .drop]) later := by
  let setup : StreamSetup := ⟨8000, 4000, 1000⟩
  let before : List Step :=
    [.table (.enter 5), .table (.call 0 (.prepare setup)), .table (.call 0 .start),
      .table (.enter 6), .direct 1 (.call (.prepare setup)), .direct 1 (.call .start),
      .clock (.forward 60), .table (.call 1 .stop), .table (.call 1 .start), .table (.close 0),
      .table (.close 1), .table (.enter 5), .direct 2 (.call .free), .table (.close 2),
      .table (.enter 7), .table (.call 3 (.prepare setup)), .direct 3 .join,
      .table (.call 3 .start)]
  let later : List Step :=
    [.clock (.forward 1000), .direct 3 .poll, .direct 3 (.call .start), .direct 3 (.tryWait 0),
      .direct 0 .poll, .direct 1 (.call .start), .direct 1 .poll, .table (.close 3)]
  have opened : ((fresh ⟨1000, 7⟩ {}).opened (before ++ .table .drop :: later)).length = 4 := by
    decide +kernel
  have closed :
      (fresh ⟨1000, 7⟩ {}).closed (before ++ .table .drop :: later) = [0, 1, 2] := by
    decide +kernel
  have stages : ((fresh ⟨1000, 7⟩ {}).run before).1.seats.map (·.deck.device.stage) =
      [.freed, .freed, .freed, .running] := by decide +kernel
  obtain ⟨torn, _, disposed⟩ :=
    closing_tears_down ⟨1000, 7⟩ {} (before ++ .table .drop :: later) (by rw [opened]; decide)
  obtain ⟨found, placed, spent⟩ := torn 1 (by rw [closed]; decide)
  exact ⟨before, later, found, opened, closed, stages, placed, spent, disposed before later rfl⟩

end Rack

end PcmPlayback
