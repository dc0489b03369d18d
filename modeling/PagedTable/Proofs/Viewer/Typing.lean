import PagedTable.Proofs.Viewer.Columns

/-! # What is typed takes effect

Texts of a filter are handed out by the entry that they are typed into: when it
begins, with the enter key, with the escape key, and when typing has paused. The
text handed out last is the one the buffer holds once nothing waits, and it is the
one the table is filtered by. -/

namespace PagedTable

namespace FilterEntry

/-! ## Actions -/

/-- What can happen to an entry. The clock may go back between two of them. -/
inductive Action where
  | start (current : String)
  | key (press : KeyPress) (now : Nat)
  | poll (now : Nat)

def perform (entry : FilterEntry) : Action → FilterEntry
  | .start current => .start current
  | .key press now => (entry.press press now).2
  | .poll now => (entry.poll now).2

/-- The text that an action hands out, if it does. The escape key hands out the
empty one. -/
def handOut? (entry : FilterEntry) : Action → Option String
  | .start current => some current
  | .key press now =>
    match (entry.press press now).1 with
    | .goOn => none
    | .apply text => some text
    | .cancel => some ""
  | .poll now => (entry.poll now).1

def Action.editTime? : Action → Option Nat
  | .key press now =>
    if press.isEscape then none
    else match press.key with
      | .backspace => some now
      | .char _ => some now
      | _ => none
  | _ => none

def run (entry : FilterEntry) (actions : List Action) : FilterEntry :=
  actions.foldl perform entry

def handedOut (entry : FilterEntry) : List Action → List String
  | [] => []
  | action :: actions => (entry.handOut? action).toList ++ (entry.perform action).handedOut actions

def lastHandedOut (actions : List Action) : String :=
  (handedOut {} actions).getLast?.getD ""

def lastEditTime? (actions : List Action) : Option Nat :=
  (actions.filterMap Action.editTime?).getLast?

section

variable (entry : FilterEntry) (actions : List Action) (action : Action)

theorem run_append (later : List Action) :
    entry.run (actions ++ later) = (entry.run actions).run later :=
  List.foldl_append

theorem handedOut_append (later : List Action) :
    entry.handedOut (actions ++ later) =
      entry.handedOut actions ++ (entry.run actions).handedOut later := by
  induction actions generalizing entry with
  | nil => rfl
  | cons action actions induction =>
      rw [List.cons_append, handedOut, handedOut, induction, List.append_assoc]
      rfl

theorem lastHandedOut_concat :
    lastHandedOut (actions ++ [action]) =
      ((run {} actions).handOut? action).getD (lastHandedOut actions) := by
  rw [lastHandedOut, handedOut_append, handedOut, handedOut, List.append_nil]
  cases (run {} actions).handOut? action with
  | none => rw [Option.toList_none, List.append_nil]; rfl
  | some text => simp

theorem lastEditTime?_concat :
    lastEditTime? (actions ++ [action]) = action.editTime?.or (lastEditTime? actions) := by
  rw [lastEditTime?, List.filterMap_append]
  cases edited : action.editTime? with
  | none => simp [edited, lastEditTime?]
  | some time => simp [edited]

end

/-! ## Runs -/

structure InStep (entry : FilterEntry) (text : String) (edited : Option Nat) : Prop where
  applied : entry.applied = text
  settled : entry.lastEdit = none → entry.buffer = text
  timed : ∀ last ∈ entry.lastEdit, edited = some last

theorem InStep.of_settled (text : String) (edited : Option Nat) :
    InStep ⟨text, text, none⟩ text edited where
  applied := rfl
  settled _ := rfl
  timed := nofun

theorem InStep.key {entry : FilterEntry} {text : String} {edited : Option Nat}
    (inStep : entry.InStep text edited) (press : KeyPress) (now : Nat) :
    (entry.perform (.key press now)).InStep ((entry.handOut? (.key press now)).getD text)
      ((Action.key press now).editTime?.or edited) := by
  have edit (change : List Char → List Char) :
      (entry.edit now change).InStep text (some now) :=
    ⟨inStep.applied, nofun, fun _ member => member⟩
  rw [perform, handOut?, Action.editTime?, FilterEntry.press]
  by_cases escape : press.isEscape = true
  · rw [if_pos escape, if_pos escape]
    exact .of_settled "" edited
  · rw [if_neg escape, if_neg escape]
    cases press.key with
    | enter => exact .of_settled entry.buffer edited
    | backspace => exact edit List.dropLast
    | char char => exact edit (· ++ [char])
    | _ => exact inStep

theorem InStep.poll {entry : FilterEntry} {text : String} {edited : Option Nat}
    (inStep : entry.InStep text edited) (now : Nat) :
    (entry.perform (.poll now)).InStep ((entry.handOut? (.poll now)).getD text) edited := by
  rw [perform, handOut?, FilterEntry.poll]
  cases waits : entry.lastEdit with
  | none => exact inStep
  | some last =>
      dsimp only
      split
      · exact inStep
      · split
        case isTrue same =>
          have settled : entry.buffer = text := same.trans inStep.applied
          exact ⟨inStep.applied, fun _ => settled, nofun⟩
        case isFalse => exact .of_settled entry.buffer edited

theorem InStep.perform {entry : FilterEntry} {text : String} {edited : Option Nat}
    (inStep : entry.InStep text edited) (action : Action) :
    (entry.perform action).InStep ((entry.handOut? action).getD text)
      (action.editTime?.or edited) := by
  cases action with
  | start current => exact .of_settled current edited
  | key press now => exact inStep.key press now
  | poll now => exact inStep.poll now

theorem run_inStep (actions : List Action) :
    (run {} actions).InStep (lastHandedOut actions) (lastEditTime? actions) := by
  induction actions using List.reverseRecOn with
  | nil => exact .of_settled "" none
  | append_singleton actions action induction =>
      rw [run_append, lastHandedOut_concat, lastEditTime?_concat]
      exact induction.perform action

/-! ## Pauses -/

theorem poll_eq_some_iff (entry : FilterEntry) (now : Nat) (text : String) :
    (entry.poll now).1 = some text ↔
      (∃ last, entry.lastEdit = some last ∧ last + pause ≤ now) ∧
        entry.buffer ≠ entry.applied ∧ text = entry.buffer := by
  unfold FilterEntry.poll pause
  cases entry.lastEdit with
  | none => simp
  | some last =>
      dsimp only
      split
      · simp; omega
      · split
        · simp_all
        · simp_all [eq_comm]; omega

/-- A look after a pause leaves nothing waiting. -/
theorem poll_of_paused {entry : FilterEntry} {last now : Nat} (waits : entry.lastEdit = some last)
    (paused : last + pause ≤ now) :
    (entry.poll now).2.lastEdit = none ∧ (entry.poll now).2.buffer = entry.buffer := by
  have late : ¬ now - last < pause := by omega
  rw [FilterEntry.poll, waits]
  dsimp only
  rw [if_neg late]
  split
  · exact ⟨rfl, rfl⟩
  · exact ⟨rfl, rfl⟩

/-- Whether an entry that has gone through some actions hands out what is typed. -/
structure HandsOutTyped (entry : FilterEntry) (actions : List Action) : Prop where
  settled : entry.lastEdit = none → entry.buffer = lastHandedOut actions
  poll : ∀ now text, (entry.poll now).1 = some text ↔
    (∃ last, entry.lastEdit = some last ∧ lastEditTime? actions = some last ∧
      last + pause ≤ now) ∧
    entry.buffer ≠ lastHandedOut actions ∧ text = entry.buffer
  paused : ∀ now last, entry.lastEdit = some last → last + pause ≤ now →
    (entry.poll now).2.lastEdit = none ∧
    lastHandedOut (actions ++ [.poll now]) = entry.buffer

theorem run_handsOutTyped (actions : List Action) : (run {} actions).HandsOutTyped actions := by
  have inStep := run_inStep actions
  refine ⟨inStep.settled, ?_, ?_⟩
  · intro now text
    rw [poll_eq_some_iff, inStep.applied]
    refine and_congr_left' ⟨?_, ?_⟩
    · rintro ⟨last, waits, paused⟩
      exact ⟨last, waits, inStep.timed last waits, paused⟩
    · rintro ⟨last, waits, _, paused⟩
      exact ⟨last, waits, paused⟩
  · intro now last waits paused
    have polled := poll_of_paused waits paused
    -- nothing waits after the look, so the buffer is what has been handed out
    have next := run_inStep (actions ++ [.poll now])
    rw [run_append] at next
    exact ⟨polled.1, (next.settled polled.1).symm.trans polled.2⟩

end FilterEntry

namespace Viewer

variable (viewer : Viewer)

/-! ## Events -/

/-- What an event does to the entry. A slash begins one with the filter in effect. -/
def entryActions : Event → List FilterEntry.Action
  | .key press now =>
    match viewer.mode with
    | .normal => if press.key = .char '/' then [.start viewer.table.query.text] else []
    | .filter => [.key press now]
  | .tick now _ =>
    match viewer.mode with
    | .normal => []
    | .filter => [.poll now]
  | _ => []

def typed (viewer : Viewer) : List Event → List FilterEntry.Action
  | [] => []
  | event :: events => viewer.entryActions event ++ (viewer.handle event).typed events

/-- Whether the entry has gone through some actions, and the text that they handed
out last is that of the filter in effect. -/
structure Types (actions : List FilterEntry.Action) (before after : Viewer) : Prop where
  entry : after.entry = before.entry.run actions
  query : after.table.query.text =
    (before.entry.handedOut actions).getLast?.getD before.table.query.text

variable {viewer} {after : Viewer}

theorem Proceeds.types {aiming filtering : Prop}
    (proceeds : Proceeds aiming filtering viewer after) (quiet : ¬ filtering) :
    Types [] viewer after :=
  ⟨proceeds.entry.resolve_left quiet, congrArg Query.text (proceeds.course.query_eq quiet)⟩

theorem Looks.types {file : Option File} (looks : Looks viewer file after) :
    Types [] viewer after := by
  cases looks with
  | unchanged | failed => exact ⟨rfl, rfl⟩
  | replaced found there changed lastCheck loaded =>
      exact ⟨rfl, congrArg Query.text (Table.update_query _ loaded.records)⟩

theorem Types.of_action {action : FilterEntry.Action}
    (entry : after.entry = viewer.entry.perform action)
    (query : after.table.query.text =
      (viewer.entry.handOut? action).getD viewer.table.query.text) :
    Types [action] viewer after := by
  refine ⟨entry, ?_⟩
  rw [query, FilterEntry.handedOut, FilterEntry.handedOut, List.append_nil]
  cases viewer.entry.handOut? action with
  | none => rfl
  | some text => rfl

theorem Types.append {third : Viewer} {first second : List FilterEntry.Action}
    (earlier : Types first viewer after) (later : Types second after third) :
    Types (first ++ second) viewer third := by
  constructor
  · rw [later.entry, earlier.entry, FilterEntry.run_append]
  · rw [later.query, earlier.query, earlier.entry, FilterEntry.handedOut_append,
      List.getLast?_append, Option.getD_or]

theorem Types.keeps {third : Viewer} {actions : List FilterEntry.Action}
    (earlier : Types actions viewer after) (kept : Types [] after third) :
    Types actions viewer third := by
  have whole := earlier.append kept
  rw [List.append_nil] at whole
  exact whole

theorem entryActions_of_quiet {event : Event} (quiet : ¬ viewer.FiltersAt event) :
    viewer.entryActions event = [] := by
  cases event with
  | key press now =>
      rcases not_or.mp quiet with ⟨normal, other⟩
      unfold entryActions
      cases typing : viewer.mode with
      | normal => exact if_neg other
      | filter => exact absurd typing normal
  | tick now file =>
      unfold entryActions
      cases typing : viewer.mode with
      | normal => rfl
      | filter => exact absurd typing quiet
  | _ => rfl

variable (viewer)

theorem types_pressFilter (press : KeyPress) (now : Nat) :
    Types [.key press now] viewer (viewer.pressFilter press now) := by
  unfold pressFilter
  dsimp only
  split
  case h_1 silent =>
    apply Types.of_action rfl
    rw [FilterEntry.handOut?, silent]
    rfl
  case h_2 text applied =>
    apply Types.of_action rfl
    rw [FilterEntry.handOut?, applied]
    exact congrArg Query.text (Table.refresh_query _)
  case h_3 cancelled =>
    apply Types.of_action rfl
    rw [FilterEntry.handOut?, cancelled]
    exact congrArg Query.text (Table.refresh_query _)

theorem types_pollFilter (now : Nat) (typing : viewer.mode = .filter) :
    Types [.poll now] viewer (viewer.pollFilter now) := by
  unfold pollFilter
  rw [typing]
  dsimp only
  split
  case h_1 silent =>
    apply Types.of_action rfl
    rw [FilterEntry.handOut?, silent]
    rfl
  case h_2 text polled =>
    apply Types.of_action rfl
    rw [FilterEntry.handOut?, polled]
    exact congrArg Query.text (Table.refresh_query _)

theorem pressNormal_slash {press : KeyPress} (slash : press.key = .char '/') :
    viewer.pressNormal press = viewer.enterFilter := by
  have other : press.shortcut? = none := by
    simp [KeyPress.shortcut?, KeyPress.isEscape, slash]
  rw [pressNormal, other]
  dsimp only
  rw [slash]
  rfl

theorem types_press (press : KeyPress) (now : Nat) (filters : viewer.FiltersAt (.key press now)) :
    Types (viewer.entryActions (.key press now)) viewer (viewer.press press now) := by
  unfold entryActions Viewer.press
  cases typing : viewer.mode with
  | normal =>
      have slash : press.key = .char '/' := filters.resolve_left (by rw [typing]; decide)
      dsimp only
      rw [if_pos slash, viewer.pressNormal_slash slash]
      exact ⟨rfl, rfl⟩
  | filter => exact viewer.types_pressFilter press now

theorem types_tick (now : Nat) (file : Option File) (typing : viewer.mode = .filter) :
    Types [.poll now] viewer (viewer.tick now file) := by
  have scrolls : Proceeds _ False _ _ := (viewer.pollFilter now).autoScroll_proceeds now
  rcases viewer.tick_looks now file with ⟨after, looks, read⟩
  have scrolled : Types [.poll now] viewer _ :=
    (viewer.types_pollFilter now typing).keeps (scrolls.types id)
  exact (scrolled.keeps looks.types).keeps (read.types id)

theorem types_handle (event : Event) :
    Types (viewer.entryActions event) viewer (viewer.handle event) := by
  by_cases filters : viewer.FiltersAt event
  · cases event with
    | key press now => exact viewer.types_press press now filters
    | tick now file =>
        have polls : viewer.entryActions (.tick now file) = [.poll now] := by
          rw [entryActions, show viewer.mode = .filter from filters]
        rw [polls]
        exact viewer.types_tick now file filters
    | _ => cases filters
  · rcases viewer.exists_look event with ⟨before, after, proceeds, looks, goesOn⟩
    rw [entryActions_of_quiet filters]
    exact ((proceeds.types filters).keeps looks.types).keeps (goesOn.types id)

theorem types_run (events : List Event) :
    Types (viewer.typed events) viewer (viewer.run events) := by
  induction events generalizing viewer with
  | nil => exact ⟨rfl, rfl⟩
  | cons event events induction =>
      exact (viewer.types_handle event).append (induction (viewer.handle event))

/-! ## What is typed is what is applied -/

/-- Once nothing waits, the buffer of an entry is the text handed out last. Text that
waits is handed out by the first look after a pause, as a whole and only where it
differs. And the viewer's table is filtered by the text that its entry handed out
last. -/
theorem typed_text_takes_effect :
    (∀ actions : List FilterEntry.Action,
      (FilterEntry.run {} actions).HandsOutTyped actions) ∧
    ∀ {source : Source} {settings : Settings} {watch : Bool} {file : Option File}
      {viewer : Viewer} (events : List Event),
      start source settings watch file = .ok viewer →
        (viewer.run events).entry = FilterEntry.run {} (viewer.typed events) ∧
        (viewer.run events).table.query.text =
          FilterEntry.lastHandedOut (viewer.typed events) := by
  refine ⟨FilterEntry.run_handsOutTyped, ?_⟩
  intro source settings watch file viewer events started
  have types := viewer.types_run events
  rcases exists_loaded_of_start started with ⟨loaded, _, rfl⟩
  have fresh : (ofLoaded source settings watch (file.map File.revision) loaded).table.query =
      .empty := Table.update_query _ loaded.records
  refine ⟨types.entry, ?_⟩
  rw [types.query, fresh]
  rfl

/-- A letter is typed and takes effect after a pause. Another one waits, while the
clock goes back. -/
theorem typed_text_takes_effect_after_pause :
    let letter (char : Char) (now : Nat) : Event := .key { key := .char char } now
    let events : List Event :=
      [letter '/' 0, letter 'b' 100, .tick 599 none, .tick 600 none, letter 'o' 700, .tick 650 none]
    ∃ viewer, people? = .ok viewer ∧
      (viewer.run events).mode = .filter ∧
      (viewer.run events).table.query.text = FilterEntry.lastHandedOut (viewer.typed events) ∧
      FilterEntry.lastHandedOut (viewer.typed events) = "b" ∧
      ((viewer.run events).entry.poll 1200).1 = some "bo" := by
  intro letter events
  have computed : ∃ viewer ∈ people?.toOption, (viewer.run events).mode = .filter ∧
      (viewer.run events).entry = ⟨"bo", "b", some 700⟩ ∧
      FilterEntry.lastEditTime? (viewer.typed events) = some 700 ∧
      FilterEntry.lastHandedOut (viewer.typed events) = "b" := by
    decide +kernel
  rcases exists_ok_of_mem_toOption computed with ⟨viewer, started, typing, entry, edited, handed⟩
  rcases typed_text_takes_effect with ⟨entries, viewers⟩
  have followed := viewers events started
  have polled := (entries (viewer.typed events)).poll 1200 "bo"
  rw [← followed.1, entry, edited, handed] at polled
  refine ⟨viewer, started, typing, followed.2, handed, ?_⟩
  rw [entry, polled]
  exact ⟨⟨700, rfl, rfl, by decide⟩, by decide, rfl⟩

end Viewer

end PagedTable
