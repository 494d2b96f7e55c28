import PcmPlayback.Proofs.Closing

/-!
# Independence

The devices of a rack do not notice one another. What a client of one of them sees is what a session
of its own would show: built from the same template, on the same clock, and freed when its handle is
closed or the rack is dropped.
-/

set_option autoImplicit false

namespace PcmPlayback

namespace Rack

/-- A step on a rack from the point of view of one seat. -/
inductive Errand where
  | clock (move : ManualClock.Move)
  | direct (step : Deck.Step)
  | call (call : Call)
  | close
  | find
  | drop

/-- What a step is to a seat: a move of the clock that all devices follow, a step addressed to the
seat, or the end of the rack. Any other step is nothing to it. -/
def Step.errand? (seat : Nat) : Step → Option Errand
  | .clock move => some (.clock move)
  | .direct other step => if other = seat then some (.direct step) else none
  | .table (.call other call) => if other = seat then some (.call call) else none
  | .table (.close other) => if other = seat then some .close else none
  | .table (.find other) => if other = seat then some .find else none
  | .table .drop => some .drop
  | .table (.enter _) | .table (.lookup _) | .table .count => none

/-- What a run shows in the steps that are something to a seat. -/
def heard (rack : Rack) (seat : Nat) : List Step → List Entry
  | [] => []
  | step :: rest =>
      ((step.errand? seat).map fun _ => (rack.step step).2).toList ++
        (rack.step step).1.heard seat rest

/-- What a session shows, as a rack shows it. -/
def Entry.ofSession : Session.Entry → Entry
  | .clock now => .clock now
  | .deck reply view => .seat (.deck reply) view

end Rack

/-- What a client can do with the handle of a device: use it, or no longer since it was closed, or
not even ask since the rack was dropped. -/
inductive Access where
  | held
  | closed
  | dropped
  deriving DecidableEq

/-- A session that stands alone, and a handle for it. -/
structure Solo where
  session : Session
  handle : Handle
  access : Access := .held

namespace Solo

/-- Takes a step on the session, and shows it as a rack would. -/
def take (solo : Solo) (step : Session.Step) : Solo × Rack.Entry :=
  let (session, entry) := solo.session.step step
  ({ solo with session := session }, .ofSession entry)

/-- Frees the device and gives up the access to it. -/
def leave (solo : Solo) (access : Access) : Solo :=
  { solo with session := (solo.session.step (.deck (.call .free))).1, access := access }

def view (solo : Solo) : Deck.View := solo.session.deck.view [] []

/-- The answer to whoever has no access any more. -/
def refusal? (solo : Solo) : Option Rack.Entry :=
  match solo.access with
  | .held => none
  | .closed => some (.seat (.refused (.unknownHandle solo.handle)) solo.view)
  | .dropped => some .noTable

/-- Answers with the handle, if it still gives access. -/
def answer (solo : Solo) (served : Solo × Rack.Entry) : Solo × Rack.Entry :=
  match solo.refusal? with
  | none => served
  | some refusal => (solo, refusal)

/-- Every step on the device is one of the session; closing and dropping free it. -/
def step (solo : Solo) : Rack.Errand → Solo × Rack.Entry
  | .clock move => solo.take (.clock move)
  | .direct step => solo.take (.deck step)
  | .call call => solo.answer (solo.take (.deck (.call call)))
  | .close => solo.answer (solo.leave .closed, .seat .closed (solo.leave .closed).view)
  | .find => solo.answer (solo, .seat (.found true) solo.view)
  | .drop =>
      match solo.access with
      | .held => (solo.leave .dropped, .dropped)
      | .closed => ({ solo with access := .dropped }, .dropped)
      | .dropped => (solo, .noTable)

def run (solo : Solo) : List Rack.Errand → Solo × List Rack.Entry
  | [] => (solo, [])
  | errand :: rest =>
      let (next, entry) := solo.step errand
      let (last, entries) := next.run rest
      (last, entry :: entries)

theorem handle_step (solo : Solo) (errand : Rack.Errand) :
    (solo.step errand).1.handle = solo.handle := by
  cases errand with
  | clock | direct => rfl
  | call | close | find =>
      simp only [step, answer]
      cases solo.refusal? <;> rfl
  | drop =>
      simp only [step]
      cases solo.access <;> rfl

theorem handle_run (solo : Solo) (errands : List Rack.Errand) :
    (solo.run errands).1.handle = solo.handle := by
  induction errands generalizing solo with
  | nil => rfl
  | cons errand rest ih => exact (ih _).trans (solo.handle_step errand)

end Solo

namespace Rack

variable {rack : Rack} {issued : List Handle} {streams : List UInt32} {gone : List Nat}
  {seat : Nat} {solo : Solo}

/-- The access to a seat, given the seats that were closed. -/
def access (rack : Rack) (gone : List Nat) (seat : Nat) : Access :=
  if rack.table.isSome then if seat ∈ gone then .closed else .held else .dropped

/-- A seat of a rack and a session that stands alone are in the same state. -/
structure Mirrors (rack : Rack) (gone : List Nat) (seat : Nat) (solo : Solo) : Prop where
  clock : solo.session.clock = rack.clock
  placed : rack.seats[seat]? = some ⟨solo.handle, solo.session.deck⟩
  access : solo.access = rack.access gone seat

theorem closed?_eq_some {step : Step} {entry : Entry} (closing : step.closed? entry = some seat) :
    step = .table (.close seat) := by
  unfold Step.closed? at closing
  split at closing
  · cases closing
    rfl
  · cases closing

/-- Nothing is closed by whoever has no access any more. -/
theorem closed?_refusal {refusal : Entry} (barred : solo.refusal? = some refusal) (seat : Nat) :
    Step.closed? (.table (.close seat)) refusal = none := by
  unfold Solo.refusal? at barred
  cases access : solo.access with
  | held => simp [access] at barred
  | closed | dropped =>
      simp only [access, Option.some_inj] at barred
      subst barred
      rfl

/-- The access to a seat lasts until it is closed or the rack is dropped. -/
theorem access_step (rack : Rack) (gone : List Nat) {step : Step}
    (other : step ≠ .table .drop) (apart : step.closed? (rack.step step).2 ≠ some seat) :
    (rack.step step).1.access (gone ++ (step.closed? (rack.step step).2).toList) seat =
      rack.access gone seat := by
  have same : seat ∈ gone ++ (step.closed? (rack.step step).2).toList ↔ seat ∈ gone := by
    rw [List.mem_append, Option.mem_toList]
    exact ⟨fun choice => choice.resolve_right apart, .inl⟩
  simp only [access, rack.isSome_table_step step other, same]

/-- A step that is nothing to a seat leaves it as it is. -/
theorem Books.step_elsewhere (books : rack.Books issued streams gone) {found : Seat}
    (placed : rack.seats[seat]? = some found) {step : Step}
    (elsewhere : step.errand? seat = none) :
    (rack.step step).1.seats[seat]? = rack.seats[seat]? := by
  cases step with
  | clock move => cases elsewhere
  | direct other step =>
      have apart : other ≠ seat := by simpa [Step.errand?] using elsewhere
      rw [Rack.step]
      cases rack.seats[other]? with
      | none => rfl
      | some own => exact (getElem?_putDeck _ seat).trans (if_neg apart)
  | table request =>
      cases present : rack.table with
      | none => rw [Rack.step, present]
      | some table =>
          cases request with
          | enter stream =>
              rw [step_enter present]
              cases table.lookup stream with
              | some handle => rfl
              | none =>
                  cases rack.template.build rack.clock.ticksPerSecond with
                  | error cause => rfl
                  | ok device =>
                      exact List.getElem?_append_left (List.getElem?_eq_some_iff.mp placed).1
          | lookup stream | count => rw [Rack.step, present]; rfl
          | close other =>
              have apart : other ≠ seat := by simpa [Step.errand?] using elsewhere
              exact books.step_close_other apart.symm
          | find other | call other call =>
              have apart : other ≠ seat := by simpa [Step.errand?] using elsewhere
              cases there : rack.seats[other]? with
              | none => simp [Rack.step, present, serve, there]
              | some own =>
                  by_cases out : other ∈ gone
                  · have stale := books.tracks.stale present there out
                    simp only [stale.find, stale.call]
                  · have reaches := books.tracks.reaches books.few present there out
                    simp only [reaches.find, reaches.call, getElem?_putDeck, if_neg apart]
          | drop => cases elsewhere

namespace Mirrors

theorem elsewhere (mirrors : rack.Mirrors gone seat solo) (books : rack.Books issued streams gone)
    {step : Step} (elsewhere : step.errand? seat = none) :
    (rack.step step).1.Mirrors (gone ++ (step.closed? (rack.step step).2).toList) seat solo := by
  obtain ⟨clock, placed, access⟩ := mirrors
  refine ⟨clock.trans ?_, ?_, access.trans ?_⟩
  · rw [(rack.step_kept step).1]
    cases step with
    | clock move => cases elsewhere
    | table | direct => rfl
  · rw [books.step_elsewhere placed elsewhere, placed]
  · refine (rack.access_step gone ?_ fun closing => ?_).symm
    · rintro rfl
      cases elsewhere
    · rw [closed?_eq_some closing] at elsewhere
      simp [Step.errand?] at elsewhere

/-- Whoever has access reaches the device. -/
theorem reaches (mirrors : rack.Mirrors gone seat solo) (books : rack.Books issued streams gone)
    (admitted : solo.refusal? = none) :
    rack.Reaches seat solo.session.deck ∧ rack.table.isSome := by
  obtain ⟨_, placed, access⟩ := mirrors
  rw [Solo.refusal?, access, Rack.access] at admitted
  cases present : rack.table with
  | none => simp [present] at admitted
  | some table =>
      by_cases out : seat ∈ gone
      · simp [present, out] at admitted
      · exact ⟨books.tracks.reaches books.few present placed out, rfl⟩

/-- Whoever has none is refused, and nothing changes. -/
theorem refused (mirrors : rack.Mirrors gone seat solo) (books : rack.Books issued streams gone)
    {refusal : Entry} (barred : solo.refusal? = some refusal) :
    rack.step (.table (.find seat)) = (rack, refusal) ∧
      (∀ call, rack.step (.table (.call seat call)) = (rack, refusal)) ∧
      rack.step (.table (.close seat)) = (rack, refusal) := by
  obtain ⟨_, placed, access⟩ := mirrors
  rw [Solo.refusal?, access, Rack.access] at barred
  cases present : rack.table with
  | none =>
      simp only [present, Option.isSome_none, Bool.false_eq_true, ↓reduceIte,
        Option.some_inj] at barred
      simp [Rack.step, present, barred]
  | some table =>
      by_cases out : seat ∈ gone
      · simp only [present, out, Option.isSome_some, ↓reduceIte, Option.some_inj] at barred
        have stale := books.tracks.stale present placed out
        rw [← barred]
        exact ⟨stale.find, stale.call, stale.close⟩
      · simp [present, out] at barred

/-- A step on the deck is a step of the session. -/
theorem take (mirrors : rack.Mirrors gone seat solo) (step : Deck.Step) :
    (rack.putDeck seat (solo.session.deck.step rack.clock.now step).1).Mirrors gone seat
        (solo.take (.deck step)).1 ∧
      (solo.take (.deck step)).2 =
        .seat (.deck (solo.session.deck.step rack.clock.now step).2.1)
          (solo.session.deck.step rack.clock.now step).2.2 := by
  obtain ⟨clock, placed, access⟩ := mirrors
  rw [← clock]
  refine ⟨⟨clock, ?_, access⟩, rfl⟩
  rw [getElem?_putDeck, if_pos rfl, placed]
  rfl

/-- Closing a seat that is open is leaving it. -/
theorem close (mirrors : rack.Mirrors gone seat solo) (books : rack.Books issued streams gone)
    (admitted : solo.refusal? = none) :
    (rack.step (.table (.close seat))).1.Mirrors (gone ++ [seat]) seat (solo.leave .closed) ∧
      (rack.step (.table (.close seat))).2 = .seat .closed (solo.leave .closed).view := by
  obtain ⟨reaches, present⟩ := mirrors.reaches books admitted
  obtain ⟨clock, placed, _⟩ := mirrors
  obtain ⟨freed, shown⟩ := reaches.close
  refine ⟨⟨?_, ?_, ?_⟩, shown⟩
  · exact clock.trans (rack.step_kept (.table (.close seat))).1.symm
  · rw [freed, getElem?_putDeck, if_pos rfl, placed]
    rfl
  · have still := rack.isSome_table_step (.table (.close seat)) (by simp)
    simp [Rack.access, Solo.leave, still, present]

/-- Dropping the rack ends the access, and a seat that is open is left. -/
theorem drop (mirrors : rack.Mirrors gone seat solo) (books : rack.Books issued streams gone) :
    (rack.step (.table .drop)).1.Mirrors gone seat (solo.step .drop).1 ∧
      (rack.step (.table .drop)).2 = (solo.step .drop).2 := by
  obtain ⟨clock, placed, reached⟩ := mirrors
  have inside : seat < issued.length :=
    books.tracks.count ▸ (List.getElem?_eq_some_iff.mp placed).1
  cases present : rack.table with
  | none =>
      have ended : solo.access = .dropped := by simpa [Rack.access, present] using reached
      simp only [Rack.step, present, Solo.step, ended]
      exact ⟨⟨clock, placed, reached⟩, trivial⟩
  | some table =>
      have listed := books.mem_values_iff present seat
      simp only [Rack.step, present, serve]
      by_cases out : seat ∈ gone
      · have ended : solo.access = .closed := by simpa [Rack.access, present, out] using reached
        simp only [Solo.step, ended]
        refine ⟨⟨clock, ?_, rfl⟩, trivial⟩
        rw [getElem?_drop, if_neg fun member => (listed.mp member).2 out, placed]
      · have held : solo.access = .held := by simpa [Rack.access, present, out] using reached
        simp only [Solo.step, held]
        refine ⟨⟨clock, ?_, rfl⟩, trivial⟩
        rw [getElem?_drop, if_pos (listed.mpr ⟨inside, out⟩), placed]
        rfl

/-- A step that is something to a seat shows what the session shows. -/
theorem step (mirrors : rack.Mirrors gone seat solo) (books : rack.Books issued streams gone)
    {step : Step} {errand : Errand} (own : step.errand? seat = some errand) :
    (rack.step step).1.Mirrors (gone ++ (step.closed? (rack.step step).2).toList) seat
        (solo.step errand).1 ∧
      (rack.step step).2 = (solo.step errand).2 := by
  have named {α : Type} {other : Nat} {first second : α}
      (same : (if other = seat then some first else none) = some second) :
      other = seat ∧ first = second := by simpa using same
  cases step with
  | clock move =>
      cases own
      obtain ⟨clock, placed, access⟩ := mirrors
      simp only [Solo.step, Solo.take, Session.step, clock, Entry.ofSession, Step.closed?,
        Option.toList_none, List.append_nil]
      exact ⟨⟨rfl, placed, access⟩, rfl⟩
  | direct other step =>
      obtain ⟨rfl, rfl⟩ := named own
      obtain ⟨taken, shown⟩ := mirrors.take step
      simp only [Rack.step, mirrors.placed, Step.closed?, Option.toList_none, List.append_nil]
      exact ⟨taken, shown.symm⟩
  | table request =>
      cases request with
      | enter | lookup | count => cases own
      | call other call =>
          obtain ⟨rfl, rfl⟩ := named own
          simp only [Solo.step, Solo.answer, Step.closed?, Option.toList_none, List.append_nil]
          cases barred : solo.refusal? with
          | some refusal =>
              rw [(mirrors.refused books barred).2.1]
              exact ⟨mirrors, rfl⟩
          | none =>
              obtain ⟨taken, shown⟩ := mirrors.take (.call call)
              rw [(mirrors.reaches books barred).1.call]
              exact ⟨taken, shown.symm⟩
      | find other =>
          obtain ⟨rfl, rfl⟩ := named own
          simp only [Solo.step, Solo.answer, Step.closed?, Option.toList_none, List.append_nil]
          cases barred : solo.refusal? with
          | some refusal =>
              rw [(mirrors.refused books barred).1]
              exact ⟨mirrors, rfl⟩
          | none =>
              rw [(mirrors.reaches books barred).1.find]
              exact ⟨mirrors, rfl⟩
      | close other =>
          obtain ⟨rfl, rfl⟩ := named own
          simp only [Solo.step, Solo.answer]
          cases barred : solo.refusal? with
          | some refusal =>
              rw [(mirrors.refused books barred).2.2, closed?_refusal barred, Option.toList_none,
                List.append_nil]
              exact ⟨mirrors, rfl⟩
          | none =>
              obtain ⟨left, shown⟩ := mirrors.close books barred
              rw [shown]
              exact ⟨left, rfl⟩
      | drop =>
          cases own
          obtain ⟨left, shown⟩ := mirrors.drop books
          simp only [Step.closed?, Option.toList_none, List.append_nil]
          exact ⟨left, shown⟩

end Mirrors

/-- A run shows in the steps that are something to a seat what the session shows. -/
theorem Mirrors.run {clock : ManualClock} {template : Template} {before : List Step}
    (mirrors : ((fresh clock template).run before).1.Mirrors ((fresh clock template).closed before)
      seat solo) (after : List Step)
    (few : ((fresh clock template).opened (before ++ after)).length < handleLimit) :
    ((fresh clock template).run (before ++ after)).1.Mirrors
        ((fresh clock template).closed (before ++ after)) seat
        (solo.run (after.filterMap (Step.errand? seat))).1 ∧
      ((fresh clock template).run before).1.heard seat after =
        (solo.run (after.filterMap (Step.errand? seat))).2 := by
  induction after generalizing before solo with
  | nil =>
      rw [List.append_nil]
      exact ⟨mirrors, rfl⟩
  | cons step rest ih =>
      have fewer := Nat.lt_of_le_of_lt (opened_append_le _ before (step :: rest)) few
      have books := fresh_books clock template before fewer
      rw [List.append_cons] at few ⊢
      rw [heard]
      cases own : step.errand? seat with
      | none =>
          have still := mirrors.elsewhere books own
          rw [← run_concat, ← closed_concat] at still
          rw [List.filterMap_cons_none own, ← run_concat]
          exact ih still few
      | some errand =>
          obtain ⟨still, shown⟩ := mirrors.step books own
          rw [← run_concat, ← closed_concat] at still
          obtain ⟨last, same⟩ := ih still few
          rw [List.filterMap_cons_some own, ← run_concat, same]
          exact ⟨last, congrArg (· :: _) shown⟩

/-- A device that was just opened is where a session of its own begins. -/
theorem Tracks.mirrors (tracks : rack.Tracks issued gone) {step : Step} {handle : Handle}
    (opening : (rack.step step).2.opened? = some (seat, handle)) :
    ∃ session, Session.begin rack.template rack.clock = .ok session ∧
      (rack.step step).1.Mirrors gone seat { session := session, handle := handle } := by
  obtain ⟨table, stream, present, rfl⟩ := step_opened opening
  have past := (tracks.sound table present).past
  rw [step_enter present] at opening ⊢
  cases free : table.lookup stream with
  | some taken => simp [free, Entry.opened?] at opening
  | none =>
      cases built : rack.template.build rack.clock.ticksPerSecond with
      | error cause => simp [free, built, Entry.opened?] at opening
      | ok device =>
          simp only [free, built, Entry.opened?, Option.some_inj, Prod.mk.injEq] at opening
          obtain ⟨rfl, rfl⟩ := opening
          refine ⟨⟨rack.clock, { device := device }⟩, by simp [Session.begin, built], rfl, ?_, ?_⟩
          · exact List.getElem?_concat_length
          · have unclosed : rack.seats.length ∉ gone := fun out =>
              Nat.lt_irrefl _ (tracks.count ▸ past _ out)
            simp [Rack.access, unclosed]

/-- The devices of a rack are independent, in every run in which fewer are opened than a word of 32
bits can count. From the moment a device is opened, what the steps addressed to it show is what a
session shows that stands alone: built from the template of the rack, begun on the clock as it was
then, and taken through these steps only. It ends in the same state, too. -/
theorem seats_independent (clock : ManualClock) (template : Template) (before after : List Step)
    (step : Step) (seat : Nat) (handle : Handle)
    (few : ((fresh clock template).opened (before ++ step :: after)).length < handleLimit)
    (opening : (((fresh clock template).run before).1.step step).2.opened? = some (seat, handle)) :
    ∃ session, Session.begin template ((fresh clock template).run before).1.clock = .ok session ∧
      ((fresh clock template).run (before ++ [step])).1.heard seat after =
        (Solo.run ⟨session, handle, .held⟩ (after.filterMap (Step.errand? seat))).2 ∧
      ((fresh clock template).run (before ++ step :: after)).1.seats[seat]? =
        some ⟨handle, (Solo.run ⟨session, handle, .held⟩
          (after.filterMap (Step.errand? seat))).1.session.deck⟩ := by
  have fewer := Nat.lt_of_le_of_lt (opened_append_le _ before _) few
  obtain ⟨tracks, _⟩ := fresh_tracks clock template before fewer
  obtain ⟨session, begun, mirrors⟩ := tracks.mirrors opening
  rw [((fresh clock template).run_kept before).2] at begun
  have unclosed : (fresh clock template).closed (before ++ [step]) =
      (fresh clock template).closed before := by
    obtain ⟨_, _, _, rfl⟩ := step_opened opening
    rw [closed_concat]
    exact List.append_nil _
  rw [← run_concat, ← unclosed] at mirrors
  rw [List.append_cons before step after] at few ⊢
  obtain ⟨last, same⟩ := mirrors.run after few
  refine ⟨session, begun, same, last.placed.trans ?_⟩
  rw [Solo.handle_run]

/-- A device in a slot that was used before, with a waiter and a callback of its own. It runs next
to another one, while the one before it is tried with its stale handle and past the table. It is
closed and its slot is used again, it is tried once more, and the rack is dropped. -/
theorem seats_independent_interleaved :
    ∃ (before after : List Step) (session : Session) (last : Deck),
      ((fresh ⟨1000, 7⟩ {}).opened (before ++ .table (.enter 5) :: after)).length = 4 ∧
        Session.begin {} ⟨1000, 37⟩ = .ok session ∧
        after.length = 26 ∧ (after.filterMap (Step.errand? 1)).length = 15 ∧
        ((fresh ⟨1000, 7⟩ {}).run (before ++ [.table (.enter 5)])).1.heard 1 after =
          (Solo.run ⟨session, ⟨0, 1⟩, .held⟩ (after.filterMap (Step.errand? 1))).2 ∧
        ((fresh ⟨1000, 7⟩ {}).run (before ++ .table (.enter 5) :: after)).1.seats[1]? =
          some ⟨⟨0, 1⟩, last⟩ ∧
        last.device.stage = .freed ∧ last.device.delivery.periods = 1 := by
  let setup : StreamSetup := ⟨8000, 4000, 1000⟩
  let before : List Step :=
    [.table (.enter 5), .table (.call 0 (.prepare setup)), .table (.call 0 .start),
      .clock (.forward 30), .table (.close 0)]
  let after : List Step :=
    [.table (.enter 6), .table (.call 1 (.prepare setup)), .direct 1 .join,
      .direct 1 (.call (.register ⟨"reader", [.pointer, .status], false⟩)),
      .direct 0 (.call .start), .table (.call 2 (.prepare setup)), .table (.call 1 .start),
      .table (.call 2 .start), .clock (.forward 130), .direct 2 .poll, .direct 1 .poll,
      .direct 2 .join, .table (.call 0 .start), .direct 1 (.tryWait 0), .table (.call 1 .pointer),
      .table (.find 1), .table (.close 1), .table (.enter 5), .table (.close 0),
      .table (.close 1), .table (.call 3 (.prepare setup)), .direct 1 (.call .start),
      .table (.call 1 .stop), .direct 3 (.call .free), .table .drop, .table (.find 1)]
  have opened :
      ((fresh ⟨1000, 7⟩ {}).opened (before ++ .table (.enter 5) :: after)).length = 4 := by
    decide +kernel
  have reached : ((fresh ⟨1000, 7⟩ {}).run before).1.clock = ⟨1000, 37⟩ := by decide +kernel
  have opening : (((fresh ⟨1000, 7⟩ {}).run before).1.step (.table (.enter 5))).2.opened? =
      some (1, ⟨0, 1⟩) := by decide +kernel
  obtain ⟨session, begun, heard, last⟩ := seats_independent ⟨1000, 7⟩ {} before after
    (.table (.enter 5)) 1 ⟨0, 1⟩ (by rw [opened]; decide) opening
  have freed : ((fresh ⟨1000, 7⟩ {}).run (before ++ .table (.enter 5) :: after)).1.seats[1]?.map
      (fun found => (found.deck.device.stage, found.deck.device.delivery.periods)) =
        some (.freed, 1) := by decide +kernel
  rw [last] at freed
  obtain ⟨stage, periods⟩ := Prod.mk.inj (Option.some.inj freed)
  rw [reached] at begun
  exact ⟨before, after, session, _, opened, begun, rfl, rfl, heard, last, stage, periods⟩

end Rack

end PcmPlayback
