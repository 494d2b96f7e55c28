import Mathlib.Data.List.Induction
import Mathlib.Order.Bounds.Defs
import PcmPlayback.Proofs.Seats
import PcmPlayback.Proofs.Tenancy

/-!
# Occupancy

The table of a rack keeps what the replies of a run say: which streams are open and under which
handles, and how many there are. It has as many slots as streams were open at once, no more. A
stream that is open is refused a second time, and what is refused changes nothing.
-/

set_option autoImplicit false

namespace PcmPlayback

namespace Rack

/-- The stream for which a step has opened a device, according to its reply. -/
def Step.stream? (step : Step) (entry : Entry) : Option UInt32 :=
  match step, entry with
  | .table (.enter stream), .entered (.ok _) _ => some stream
  | _, _ => none

/-- The streams for which devices were opened in a run. -/
def streams (rack : Rack) : List Step → List UInt32
  | [] => []
  | step :: rest => (step.stream? (rack.step step).2).toList ++ (rack.step step).1.streams rest

section

variable (rack : Rack) (first second : List Step)

theorem run_append :
    rack.run (first ++ second) =
      (((rack.run first).1.run second).1,
        (rack.run first).2 ++ ((rack.run first).1.run second).2) := by
  induction first generalizing rack with
  | nil => rfl
  | cons step rest ih => simp only [List.cons_append, run, ih]

theorem opened_append :
    rack.opened (first ++ second) = rack.opened first ++ (rack.run first).1.opened second := by
  induction first generalizing rack with
  | nil => rfl
  | cons step rest ih => simp only [List.cons_append, opened, run, ih, List.append_assoc]

theorem closed_append :
    rack.closed (first ++ second) = rack.closed first ++ (rack.run first).1.closed second := by
  induction first generalizing rack with
  | nil => rfl
  | cons step rest ih => simp only [List.cons_append, closed, run, ih, List.append_assoc]

theorem streams_append :
    rack.streams (first ++ second) = rack.streams first ++ (rack.run first).1.streams second := by
  induction first generalizing rack with
  | nil => rfl
  | cons step rest ih => simp only [List.cons_append, streams, run, ih, List.append_assoc]

/-! One more step at the end of a run. -/

variable (steps : List Step) (step : Step)

theorem run_concat : (rack.run (steps ++ [step])).1 = ((rack.run steps).1.step step).1 := by
  rw [run_append]
  rfl

theorem handles_concat :
    (rack.opened (steps ++ [step])).map Prod.snd =
      (rack.opened steps).map Prod.snd ++
        (((rack.run steps).1.step step).2.opened?.map Prod.snd).toList := by
  rw [opened_append, List.map_append, opened, opened, List.append_nil, Option.toList_map]

theorem closed_concat :
    rack.closed (steps ++ [step]) =
      rack.closed steps ++ (step.closed? ((rack.run steps).1.step step).2).toList := by
  rw [closed_append, closed, closed, List.append_nil]

theorem streams_concat :
    rack.streams (steps ++ [step]) =
      rack.streams steps ++ (step.stream? ((rack.run steps).1.step step).2).toList := by
  rw [streams_append, streams, streams, List.append_nil]

end

/-- What a step to open a stream does, in all its cases. -/
theorem step_enter {rack : Rack} {table : StreamTable Nat} (present : rack.table = some table)
    (stream : UInt32) :
    rack.step (.table (.enter stream)) =
      match table.lookup stream, rack.template.build rack.clock.ticksPerSecond with
      | some _, _ => (rack, .entered (.error (.streamBusy stream)) table.size)
      | none, .error cause => (rack, .entered (.error cause) table.size)
      | none, .ok device =>
          ({ rack with
              table := some (table.enter stream rack.seats.length).2
              seats := rack.seats ++
                [⟨(table.enter stream rack.seats.length).1, { device := device }⟩] },
            .entered (.ok (rack.seats.length, (table.enter stream rack.seats.length).1))
              (table.enter stream rack.seats.length).2.size) := by
  simp only [step, present, serve, enter]
  cases table.lookup stream with
  | some handle => simp [present]
  | none =>
      cases rack.template.build rack.clock.ticksPerSecond with
      | error cause => simp [present]
      | ok device => rfl

/-- Serving a request takes no time, and the table stays unless it is dropped. -/
theorem serve_kept {rack : Rack} {table : StreamTable Nat} (present : rack.table = some table)
    (request : Request) :
    (rack.serve table request).1.clock = rack.clock ∧
      (rack.serve table request).1.template = rack.template ∧
      (request ≠ .drop → (rack.serve table request).1.table.isSome) := by
  have still : rack.table.isSome := Option.isSome_of_eq_some present
  cases request with
  | enter stream =>
      rw [serve, enter]
      cases table.lookup stream with
      | some handle => exact ⟨rfl, rfl, fun _ => still⟩
      | none =>
          cases rack.template.build rack.clock.ticksPerSecond with
          | error cause => exact ⟨rfl, rfl, fun _ => still⟩
          | ok device => exact ⟨rfl, rfl, fun _ => rfl⟩
  | lookup stream | count => exact ⟨rfl, rfl, fun _ => still⟩
  | close seat =>
      rw [serve]
      cases rack.seats[seat]? with
      | none => exact ⟨rfl, rfl, fun _ => still⟩
      | some found =>
          simp only [close]
          cases table.remove found.handle with
          | error cause => exact ⟨rfl, rfl, fun _ => still⟩
          | ok left => exact ⟨rfl, rfl, fun _ => rfl⟩
  | find seat =>
      rw [serve]
      cases rack.seats[seat]? with
      | none => exact ⟨rfl, rfl, fun _ => still⟩
      | some found =>
          simp only
          cases table.find? found.handle with
          | none | some => exact ⟨rfl, rfl, fun _ => still⟩
  | call seat call =>
      rw [serve]
      cases rack.seats[seat]? with
      | none => exact ⟨rfl, rfl, fun _ => still⟩
      | some found =>
          simp only
          cases table.find? found.handle with
          | none => exact ⟨rfl, rfl, fun _ => still⟩
          | some named =>
              simp only
              cases rack.seats[named]? with
              | none | some => exact ⟨rfl, rfl, fun _ => still⟩
  | drop => exact ⟨rfl, rfl, fun other => absurd rfl other⟩

/-- The clock of a rack moves in the steps that move it, and its template never changes. -/
theorem step_kept (rack : Rack) (step : Step) :
    (rack.step step).1.clock =
        (match step with
          | .clock move => rack.clock.move move
          | .table _ | .direct _ _ => rack.clock) ∧
      (rack.step step).1.template = rack.template := by
  cases step with
  | clock move => exact ⟨rfl, rfl⟩
  | direct seat step =>
      rw [Rack.step]
      cases rack.seats[seat]? with
      | none | some => exact ⟨rfl, rfl⟩
  | table request =>
      rw [Rack.step]
      cases present : rack.table with
      | none => exact ⟨rfl, rfl⟩
      | some table =>
          obtain ⟨clock, template, _⟩ := serve_kept present request
          exact ⟨clock, template⟩

/-- Only dropping takes the table away. -/
theorem isSome_table_step (rack : Rack) (step : Step) (other : step ≠ .table .drop) :
    (rack.step step).1.table.isSome = rack.table.isSome := by
  cases step with
  | clock move => rfl
  | direct seat step =>
      rw [Rack.step]
      cases rack.seats[seat]? with
      | none | some => rfl
  | table request =>
      rw [Rack.step]
      cases present : rack.table with
      | none => simp [present]
      | some table =>
          exact (serve_kept present request).2.2 fun same => other (congrArg Step.table same)

theorem run_kept (rack : Rack) (steps : List Step) :
    (rack.run steps).1.clock.ticksPerSecond = rack.clock.ticksPerSecond ∧
      (rack.run steps).1.template = rack.template := by
  induction steps generalizing rack with
  | nil => exact ⟨rfl, rfl⟩
  | cons step rest ih =>
      obtain ⟨clock, template⟩ := rack.step_kept step
      obtain ⟨ticks, last⟩ := ih (rack.step step).1
      refine ⟨ticks.trans ?_, last.trans template⟩
      rw [clock]
      cases step with
      | clock move => cases move <;> rfl
      | table | direct => rfl

theorem opened?_seatEntry (rack : Rack) (seat : Nat) (reply : Reply) :
    (rack.seatEntry seat reply).opened? = none := by
  unfold seatEntry
  split <;> rfl

theorem serve_unopened (rack : Rack) (table : StreamTable Nat) {request : Request}
    (other : ∀ stream, request ≠ .enter stream) :
    (rack.serve table request).2.opened? = none := by
  cases request with
  | enter stream => exact absurd rfl (other stream)
  | lookup stream | count | drop => rfl
  | close seat =>
      rw [serve]
      cases rack.seats[seat]? with
      | none => rfl
      | some found =>
          simp only
          rcases rack.close table found.handle with ⟨next, cause | done⟩
          · exact next.opened?_seatEntry seat _
          · exact next.opened?_seatEntry seat _
  | find seat =>
      rw [serve]
      cases rack.seats[seat]? with
      | none => rfl
      | some found =>
          simp only
          cases table.find? found.handle with
          | none | some => exact rack.opened?_seatEntry seat _
  | call seat call =>
      rw [serve]
      cases rack.seats[seat]? with
      | none => rfl
      | some found =>
          simp only
          cases table.find? found.handle with
          | none => exact rack.opened?_seatEntry seat _
          | some named =>
              simp only
              cases rack.seats[named]? with
              | none | some => rfl

/-- Only a step to open a stream opens a device. -/
theorem step_opened {rack : Rack} {step : Step} {place : Nat × Handle}
    (opening : (rack.step step).2.opened? = some place) :
    ∃ table stream, rack.table = some table ∧ step = .table (.enter stream) := by
  cases step with
  | clock move => cases opening
  | direct seat step =>
      rw [Rack.step] at opening
      cases placed : rack.seats[seat]? with
      | none | some => simp [placed, Entry.opened?] at opening
  | table request =>
      rw [Rack.step] at opening
      cases present : rack.table with
      | none => simp [present, Entry.opened?] at opening
      | some table =>
          refine ⟨table, ?_⟩
          apply Classical.byContradiction
          intro other
          have unopened := rack.serve_unopened table
            fun stream same => other ⟨stream, rfl, congrArg Step.table same⟩
          simp [present, unopened] at opening

theorem stream?_of_unopened {step : Step} {entry : Entry} (unopened : entry.opened? = none) :
    step.stream? entry = none := by
  unfold Step.stream?
  split
  · cases unopened
  · rfl

theorem fresh_tracks (clock : ManualClock) (template : Template) (steps : List Step)
    (few : ((fresh clock template).opened steps).length < handleLimit) :
    ((fresh clock template).run steps).1.Tracks
        (((fresh clock template).opened steps).map Prod.snd)
        ((fresh clock template).closed steps) ∧
      ((fresh clock template).opened steps).map Prod.fst =
        List.range' 0 ((fresh clock template).opened steps).length := by
  have initial : (fresh clock template).Tracks [] [] := by
    refine ⟨rfl, .nil, ?_, ?_⟩
    · rintro _ ⟨⟩
      exact .initial
    · rintro _ ⟨⟩
      exact Nat.le_refl 0
  have tracked := initial.run steps (by rw [List.length_nil, Nat.zero_add]; exact few)
  rwa [List.nil_append, List.nil_append] at tracked

theorem Tracks.count {rack : Rack} {issued : List Handle} {gone : List Nat}
    (tracks : rack.Tracks issued gone) : rack.seats.length = issued.length := by
  rw [← tracks.handles, List.length_map]

/-- The books of a rack. The seats agree with the handles given out, and the table, as long as it is
there, with what was opened for which stream and what was closed. A handle more can be given out. -/
structure Books (rack : Rack) (issued : List Handle) (streams : List UInt32) (gone : List Nat) :
    Prop where
  tracks : rack.Tracks issued gone
  few : issued.length < handleLimit
  registers : ∀ table, rack.table = some table → table.Registers issued streams gone

namespace Books

variable {rack : Rack} {issued : List Handle} {streams : List UInt32} {gone : List Nat}
  {table : StreamTable Nat}

/-- A handle was given out once, so closing it closes the seat that it was given out for. -/
theorem named_eq (books : rack.Books issued streams gone) (present : rack.table = some table)
    {rest : StreamTable Nat} {seat named : Nat} {found : Seat}
    (placed : rack.seats[seat]? = some found)
    (removed : table.remove found.handle = .ok (named, rest)) : named = seat := by
  obtain ⟨_, given, _, _⟩ := (books.registers table present).remove removed
  have within := (List.getElem?_eq_some_iff.mp given).1
  exact (List.getElem?_inj within books.tracks.unique).mp
    (given.trans (books.tracks.given placed).symm)

theorem mem_values_iff (books : rack.Books issued streams gone)
    (present : rack.table = some table) (seat : Nat) :
    seat ∈ table.values ↔ seat < issued.length ∧ seat ∉ gone :=
  (books.registers table present).mem_values_iff (books.tracks.sound table present)
    (books.tracks.compact table present) books.few seat

/-- A step that leaves a table has kept its books, and has added a slot only if all were
occupied. -/
theorem step (books : rack.Books issued streams gone) (step : Step) {next : StreamTable Nat}
    (left : (rack.step step).1.table = some next) :
    ∃ table, rack.table = some table ∧
      next.Registers (issued ++ ((rack.step step).2.opened?.map Prod.snd).toList)
        (streams ++ (step.stream? (rack.step step).2).toList)
        (gone ++ (step.closed? (rack.step step).2).toList) ∧
      next.slots.length = max table.slots.length next.size := by
  cases opening : (rack.step step).2.opened? with
  | some place =>
      obtain ⟨table, stream, present, rfl⟩ := step_opened opening
      refine ⟨table, present, ?_⟩
      rw [step_enter present stream] at opening left ⊢
      cases free : table.lookup stream with
      | some handle => simp [free, Entry.opened?] at opening
      | none =>
          cases built : rack.template.build rack.clock.ticksPerSecond with
          | error cause => simp [free, built, Entry.opened?] at opening
          | ok device =>
              simp only [free, built] at opening left ⊢
              cases left
              cases opening
              obtain ⟨tracks, few, registers⟩ := books
              obtain ⟨entered, slots, size⟩ := (registers table present).enter
                (tracks.sound table present).past (tracks.compact table present) few free
              rw [tracks.count]
              simp only [Step.stream?, Step.closed?, Option.toList_some, Option.toList_none,
                Option.map_some, List.append_nil]
              exact ⟨entered, by rw [slots, size]⟩
  | none =>
      have turn := rack.step_turn step
      rw [opening] at turn
      rw [stream?_of_unopened opening]
      simp only [Option.map_none, Option.toList_none, List.append_nil]
      generalize (rack.step step).1 = last at turn left
      generalize step.closed? (rack.step step).2 = closing at turn ⊢
      have fits (table : StreamTable Nat) (present : rack.table = some table) :
          table.slots.length = max table.slots.length table.size := by
        have full := (books.registers table present).coherent.full
        omega
      cases turn with
      | unchanged | clocked | stepped =>
          simp only [Option.toList_none, List.append_nil]
          exact ⟨next, left, books.registers next left, fits next left⟩
      | dropped table present => cases left
      | closed table rest named seat found present placed removed =>
          cases left
          have registers := books.registers table present
          obtain ⟨emptied, _, slots, size⟩ := registers.remove removed
          have same := books.named_eq present placed removed
          refine ⟨table, present, same ▸ emptied, ?_⟩
          have full := registers.coherent.full
          omega

end Books

/-- The numbers of devices that were open at once at some time in a run. -/
def census (rack : Rack) (steps : List Step) : Set Nat :=
  { count | ∃ earlier, earlier <+: steps ∧
    (rack.opened earlier).length = count + (rack.closed earlier).length }

/-- The highest number of devices that were open at once is the higher one of the highest number
before and the present one. -/
theorem isGreatest_census {rack : Rack} {steps : List Step} {step : Step} {most count : Nat}
    (highest : IsGreatest (rack.census steps) most)
    (present : (rack.opened (steps ++ [step])).length =
      count + (rack.closed (steps ++ [step])).length) :
    IsGreatest (rack.census (steps ++ [step])) (max most count) := by
  obtain ⟨⟨earlier, before, counted⟩, bound⟩ := highest
  constructor
  · rcases Nat.le_total most count with less | more
    · rw [Nat.max_eq_right less]
      exact ⟨_, List.prefix_rfl, present⟩
    · rw [Nat.max_eq_left more]
      exact ⟨earlier, before.trans (List.prefix_append _ _), counted⟩
  · rintro other ⟨past, before, counted⟩
    rcases List.prefix_concat_iff.mp before with rfl | inside
    · have same : other = count := Nat.add_right_cancel (counted.symm.trans present)
      exact same ▸ Nat.le_max_right most count
    · exact Nat.le_trans (bound ⟨past, inside, counted⟩) (Nat.le_max_left _ _)

theorem opened_append_le (rack : Rack) (first second : List Step) :
    (rack.opened first).length ≤ (rack.opened (first ++ second)).length := by
  rw [opened_append, List.length_append]
  exact Nat.le_add_right _ _

/-- The books of a table after a run: it registers what was opened and what was closed, and has as
many slots as devices were open at once. -/
theorem fresh_registers (clock : ManualClock) (template : Template) (steps : List Step)
    (few : ((fresh clock template).opened steps).length < handleLimit) (table : StreamTable Nat)
    (present : ((fresh clock template).run steps).1.table = some table) :
    table.Registers (((fresh clock template).opened steps).map Prod.snd)
        ((fresh clock template).streams steps) ((fresh clock template).closed steps) ∧
      IsGreatest ((fresh clock template).census steps) table.slots.length := by
  induction steps using List.reverseRecOn generalizing table with
  | nil =>
      cases present
      refine ⟨.initial, ⟨[], List.prefix_rfl, rfl⟩, ?_⟩
      rintro count ⟨earlier, before, counted⟩
      rw [List.prefix_nil.mp before] at counted
      exact Nat.le_of_add_right_le (Nat.le_of_eq counted.symm)
  | append_singleton steps step ih =>
      have fewer := Nat.lt_of_le_of_lt (opened_append_le _ steps [step]) few
      obtain ⟨tracks, _⟩ := fresh_tracks clock template steps fewer
      have books : ((fresh clock template).run steps).1.Books _ _ _ :=
        ⟨tracks, by rwa [List.length_map], fun table found => (ih fewer table found).1⟩
      rw [run_concat] at present
      obtain ⟨before, earlier, registers, slots⟩ := books.step step present
      rw [← handles_concat, ← streams_concat, ← closed_concat] at registers
      refine ⟨registers, slots ▸ isGreatest_census (ih fewer before earlier).2 ?_⟩
      rw [registers.balance, List.length_map]

theorem fresh_books (clock : ManualClock) (template : Template) (steps : List Step)
    (few : ((fresh clock template).opened steps).length < handleLimit) :
    ((fresh clock template).run steps).1.Books (((fresh clock template).opened steps).map Prod.snd)
      ((fresh clock template).streams steps) ((fresh clock template).closed steps) :=
  ⟨(fresh_tracks clock template steps few).1, by rwa [List.length_map],
    fun table present => (fresh_registers clock template steps few table present).1⟩

/-- A stream is open under a handle: it was opened under it and was not closed since. -/
def OpenAs (rack : Rack) (steps : List Step) (stream : UInt32) (handle : Handle) : Prop :=
  ∃ seat, (rack.streams steps)[seat]? = some stream ∧ (seat, handle) ∈ rack.opened steps ∧
    seat ∉ rack.closed steps

/-- How a rack with the given table answers to steps that open and close. A device is built from the
template for a clock of the given rate. -/
structure Admits (rack : Rack) (template : Template) (ticksPerSecond : UInt64)
    (table : StreamTable Nat) : Prop where
  busy_iff : ∀ stream,
    (∃ size, (rack.step (.table (.enter stream))).2 =
        .entered (.error (.streamBusy stream)) size) ↔
      (table.lookup stream).isSome
  invalid_iff : ∀ stream cause, table.lookup stream = none →
    ((∃ size, (rack.step (.table (.enter stream))).2 = .entered (.error cause) size) ↔
      template.build ticksPerSecond = .error cause)
  opened_iff : ∀ stream,
    (∃ place size, (rack.step (.table (.enter stream))).2 = .entered (.ok place) size) ↔
      table.lookup stream = none ∧ ∃ device, template.build ticksPerSecond = .ok device
  unopened : ∀ stream cause size,
    (rack.step (.table (.enter stream))).2 = .entered (.error cause) size →
      (rack.step (.table (.enter stream))).1 = rack
  unclosed : ∀ seat cause view,
    (rack.step (.table (.close seat))).2 = .seat (.refused cause) view →
      (rack.step (.table (.close seat))).1 = rack

theorem build_ne_streamBusy (template : Template) (ticksPerSecond : UInt64) (stream : UInt32) :
    template.build ticksPerSecond ≠ .error (.streamBusy stream) := by
  unfold Template.build
  split
  · next cause defect =>
      unfold Capabilities.layoutDefect? at defect
      rintro ⟨⟩
      split at defect
      · cases defect
      · split at defect <;> cases defect
  · split
    · nofun
    · split <;> nofun

theorem admits {rack : Rack} {table : StreamTable Nat} (present : rack.table = some table) :
    rack.Admits rack.template rack.clock.ticksPerSecond table := by
  have unbusy := build_ne_streamBusy rack.template rack.clock.ticksPerSecond
  refine ⟨?_, ?_, ?_, ?_, ?_⟩
  · intro stream
    rw [step_enter present]
    cases table.lookup stream with
    | some handle => simp
    | none =>
        cases built : rack.template.build rack.clock.ticksPerSecond with
        | ok device => simp
        | error cause =>
            have other := unbusy stream
            rw [built] at other
            simpa using other
  · intro stream cause free
    rw [step_enter present, free]
    cases rack.template.build rack.clock.ticksPerSecond with
    | error other | ok device => simp
  · intro stream
    rw [step_enter present]
    cases table.lookup stream with
    | some handle => simp
    | none =>
        cases rack.template.build rack.clock.ticksPerSecond with
        | error cause | ok device => simp
  · intro stream cause size
    rw [step_enter present]
    cases table.lookup stream with
    | some handle => simp
    | none =>
        cases rack.template.build rack.clock.ticksPerSecond with
        | error other | ok device => simp
  · intro seat cause view
    simp only [step, present, serve]
    cases placed : rack.seats[seat]? with
    | none => simp
    | some found =>
        simp only [close]
        cases table.remove found.handle with
        | error other => simp
        | ok left =>
            simp only [seatEntry]
            split <;> simp

theorem mem_opened_iff {places : List (Nat × Handle)}
    (numbered : places.map Prod.fst = List.range' 0 places.length) {seat : Nat} {handle : Handle} :
    (seat, handle) ∈ places ↔ (places.map Prod.snd)[seat]? = some handle := by
  refine ⟨getElem?_of_mem_opened numbered, fun found => ?_⟩
  rw [List.getElem?_map, Option.map_eq_some_iff] at found
  obtain ⟨place, here, rfl⟩ := found
  have within := (List.getElem?_eq_some_iff.mp here).1
  have first : (places.map Prod.fst)[seat]? = some place.1 := by
    rw [List.getElem?_map, here]
    rfl
  rw [numbered, List.getElem?_range' within] at first
  have same : seat = place.1 := by simpa using first
  rw [same]
  exact List.mem_of_getElem? here

/-- The table of a rack is faithful, in every run in which fewer devices are opened than a word of
32 bits can count, as long as the table is there. -/
theorem table_faithful (clock : ManualClock) (template : Template) (steps : List Step)
    (few : ((fresh clock template).opened steps).length < handleLimit) (table : StreamTable Nat)
    (present : ((fresh clock template).run steps).1.table = some table) :
    table.Coherent ∧
      (∀ stream handle, table.lookup stream = some handle ↔
        (fresh clock template).OpenAs steps stream handle) ∧
      table.size + ((fresh clock template).closed steps).length =
        ((fresh clock template).opened steps).length ∧
      IsGreatest ((fresh clock template).census steps) table.slots.length ∧
      ((fresh clock template).run steps).1.Admits template clock.ticksPerSecond table := by
  obtain ⟨registers, highest⟩ := fresh_registers clock template steps few table present
  obtain ⟨tracks, numbered⟩ := fresh_tracks clock template steps few
  obtain ⟨ticks, same⟩ := (fresh clock template).run_kept steps
  have admits := admits present
  rw [ticks, same] at admits
  refine ⟨registers.coherent, ?_, ?_, highest, admits⟩
  · intro stream handle
    rw [registers.lookup_iff (tracks.sound table present)]
    simp only [OpenAs, mem_opened_iff numbered]
  · rw [registers.balance, List.length_map]

/-- What a rack tells about its table is what happened in the run, under the same conditions. The
count is that of the devices that were opened and not closed since; a look-up names the seat and the
handle under which its stream is open, and tells the same count. Neither changes anything. -/
theorem lookups_faithful (clock : ManualClock) (template : Template) (steps : List Step)
    (few : ((fresh clock template).opened steps).length < handleLimit) (table : StreamTable Nat)
    (present : ((fresh clock template).run steps).1.table = some table) :
    ∃ count, count + ((fresh clock template).closed steps).length =
        ((fresh clock template).opened steps).length ∧
      ((fresh clock template).run steps).1.step (.table .count) =
        (((fresh clock template).run steps).1, .counted count) ∧
      ∀ stream, ∃ named,
        ((fresh clock template).run steps).1.step (.table (.lookup stream)) =
          (((fresh clock template).run steps).1, .named named count) ∧
        ∀ seat handle, named = some (seat, handle) ↔
          ((fresh clock template).streams steps)[seat]? = some stream ∧
            (seat, handle) ∈ (fresh clock template).opened steps ∧
            seat ∉ (fresh clock template).closed steps := by
  obtain ⟨registers, _⟩ := fresh_registers clock template steps few table present
  obtain ⟨tracks, numbered⟩ := fresh_tracks clock template steps few
  have sound := tracks.sound table present
  have served (request : Request) :
      ((fresh clock template).run steps).1.step (.table request) =
        ((fresh clock template).run steps).1.serve table request := by
    simp only [step, present]
  refine ⟨table.size, ?_, served .count, fun stream => ⟨_, served (.lookup stream), ?_⟩⟩
  · rw [registers.balance, List.length_map]
  · intro seat handle
    rw [registers.visit_iff sound, mem_opened_iff numbered]

/-- A table of three slots, of which one is vacant. Five devices were opened, three of them at once,
and two of the first slot's three handles are stale; a stream that is open is refused again. -/
theorem table_faithful_reused :
    ∃ (steps : List Step) (table : StreamTable Nat),
      ((fresh ⟨1000, 7⟩ {}).opened steps).length < handleLimit ∧
        ((fresh ⟨1000, 7⟩ {}).run steps).1.table = some table ∧
        table.Coherent ∧ table.vacant = [1] ∧ table.lookup 5 = some ⟨0, 2⟩ ∧
        (fresh ⟨1000, 7⟩ {}).OpenAs steps 5 ⟨0, 2⟩ ∧ table.size + 3 = 5 ∧
        IsGreatest ((fresh ⟨1000, 7⟩ {}).census steps) 3 ∧
        ∃ size, (((fresh ⟨1000, 7⟩ {}).run steps).1.step (.table (.enter 5))).2 =
          .entered (.error (.streamBusy 5)) size := by
  let steps : List Step :=
    [.table (.enter 5), .table (.enter 6), .table (.close 0), .table (.enter 7),
      .table (.close 0), .direct 0 (.call .free), .table (.close 2), .table (.enter 5),
      .table (.enter 5), .table (.enter 8), .table (.close 1), .table (.find 0)]
  have opened : ((fresh ⟨1000, 7⟩ {}).opened steps).length = 5 := by decide +kernel
  have closed : ((fresh ⟨1000, 7⟩ {}).closed steps).length = 3 := by decide +kernel
  have few : ((fresh ⟨1000, 7⟩ {}).opened steps).length < handleLimit := by
    rw [opened]
    decide
  let table : StreamTable Nat :=
    { slots := [⟨2, some ⟨5, 3⟩⟩, ⟨1, none⟩, ⟨0, some ⟨8, 4⟩⟩]
      vacant := [1]
      streams := [(8, ⟨2, 0⟩), (5, ⟨0, 2⟩)] }
  have present : ((fresh ⟨1000, 7⟩ {}).run steps).1.table = some table := by decide +kernel
  obtain ⟨coherent, lookup_iff, balance, highest, admits⟩ :=
    table_faithful ⟨1000, 7⟩ {} steps few table present
  rw [opened, closed] at balance
  exact ⟨steps, table, few, present, coherent, rfl, rfl, (lookup_iff 5 ⟨0, 2⟩).mp rfl, balance,
    highest, (admits.busy_iff 5).mpr rfl⟩

end Rack

end PcmPlayback
