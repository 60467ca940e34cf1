import RegisterBridge.Console.Arguments
import RegisterBridge.Proofs.Text.Numeral

/-!
# What a command line that was read holds

Values come into a draft one at a time, each through the reader of its setting.  What
all readers ensure is therefore kept by every argument, and holds of the draft that a
whole line makes.  Here it is the size of a burst that matters: it is checked when it is
read, by other words than those in which a plan of a burst checks it.
-/

namespace RegisterBridge.Console

/-- Two steps succeed if the first does and the second does on its value. -/
theorem bind_eq_ok_iff {ε α β : Type} {first : Except ε α} {next : α → Except ε β} {value : β} :
    first >>= next = .ok value ↔ ∃ middle, first = .ok middle ∧ next middle = .ok value := by
  cases first with
  | ok middle =>
      constructor
      · exact fun succeeds => ⟨middle, rfl, succeeds⟩
      · rintro ⟨_, ⟨⟩, succeeds⟩
        exact succeeds
  | error fault =>
      constructor
      · exact fun impossible => by cases impossible
      · rintro ⟨_, impossible, _⟩
        cases impossible

theorem eq_ok_of_toOption {ε α : Type} {result : Except ε α} {value : α}
    (has : result.toOption = some value) : result = .ok value := by
  cases result with
  | ok found =>
      cases has
      rfl
  | error fault => cases has

/-! ## Invariants of drafts -/

/-- A property that every draft has, for the blank one has it and whatever is given a
value keeps it. -/
structure Draft.Invariant (P : Draft → Prop) : Prop where
  blank : P {}
  put : ∀ {draft next : Draft} {setting : Setting} {text : String}, P draft →
    draft.put setting text = .ok next → P next
  putExtended : ∀ {draft next : Draft}, P draft → draft.putExtended = .ok next → P next

namespace Progress

variable {P : Draft → Prop} {progress next : Progress} {scope : Scope} {text : String}

theorem settle_keeps (invariant : Draft.Invariant P) (holds : P progress.draft)
    (settled : progress.settle = .ok next) : P next.draft := by
  rw [settle] at settled
  split at settled
  · cases settled
    exact holds
  · cases settled
  · obtain ⟨draft, given, rest⟩ := bind_eq_ok_iff.mp settled
    cases rest
    exact invariant.put holds given

theorem takePositional_keeps (invariant : Draft.Invariant P) (holds : P progress.draft)
    (taken : progress.takePositional scope text = .ok next) : P next.draft := by
  rw [takePositional.eq_def] at taken
  split at taken
  · obtain ⟨settled, settles, rest⟩ := bind_eq_ok_iff.mp taken
    cases rest
    exact (settle_keeps invariant holds settles : P settled.draft)
  · split at taken
    · cases taken
    · split at taken <;> cases taken

theorem takeFlag_keeps (invariant : Draft.Invariant P) (holds : P progress.draft) {flag : Flag}
    {attached : Option String} (taken : progress.takeFlag flag attached = .ok next) :
    P next.draft := by
  rw [takeFlag.eq_def] at taken
  split at taken
  · obtain ⟨settled, settles, rest⟩ := bind_eq_ok_iff.mp taken
    obtain ⟨draft, given, rest⟩ := bind_eq_ok_iff.mp rest
    cases rest
    exact invariant.put (settle_keeps invariant holds settles) given
  · obtain ⟨settled, settles, rest⟩ := bind_eq_ok_iff.mp taken
    cases rest
    exact (settle_keeps invariant holds settles : P settled.draft)
  · cases taken
  · obtain ⟨settled, settles, rest⟩ := bind_eq_ok_iff.mp taken
    obtain ⟨draft, given, rest⟩ := bind_eq_ok_iff.mp rest
    cases rest
    exact invariant.putExtended (settle_keeps invariant holds settles) given
  · obtain ⟨_, _, impossible⟩ := bind_eq_ok_iff.mp taken
    cases impossible
  · obtain ⟨_, _, impossible⟩ := bind_eq_ok_iff.mp taken
    cases impossible

theorem takePlain_keeps (invariant : Draft.Invariant P) (holds : P progress.draft)
    (taken : progress.takePlain scope text = .ok next) : P next.draft := by
  rw [takePlain.eq_def] at taken
  split at taken
  · cases taken
    exact holds
  · exact takePositional_keeps invariant holds taken

/-- An argument keeps what giving a value keeps. -/
theorem take_keeps (invariant : Draft.Invariant P) (holds : P progress.draft)
    (taken : progress.take scope text = .ok next) : P next.draft := by
  rw [take] at taken
  split at taken
  · exact takePositional_keeps invariant holds taken
  · split at taken
    · cases taken
      exact holds
    · split at taken
      · exact takeFlag_keeps invariant holds taken
      · cases taken
    · split at taken
      · exact takeFlag_keeps invariant holds taken
      · cases taken
    · exact takePlain_keeps invariant holds taken

/-- So do all arguments of a command. -/
theorem foldlM_take_keeps (invariant : Draft.Invariant P) {arguments : List String}
    (holds : P progress.draft)
    (taken : arguments.foldlM (fun progress text => progress.take scope text) progress =
      .ok next) : P next.draft := by
  induction arguments generalizing progress with
  | nil =>
      cases taken
      exact holds
  | cons text rest ih =>
      rw [List.foldlM_cons] at taken
      obtain ⟨middle, first, others⟩ := bind_eq_ok_iff.mp taken
      exact ih (take_keeps invariant holds first) others

end Progress

/-- The draft of a whole command has every invariant. -/
theorem Draft.Invariant.of_readCommand {P : Draft → Prop} (invariant : Draft.Invariant P)
    {verb : Verb} {arguments : List String} {draft : Draft}
    (read : readCommand verb arguments = .ok draft) : P draft := by
  obtain ⟨progress, taken, rest⟩ := bind_eq_ok_iff.mp read
  obtain ⟨settled, settles, last⟩ := bind_eq_ok_iff.mp rest
  cases last
  exact Progress.settle_keeps invariant
    (Progress.foldlM_take_keeps invariant invariant.blank taken) settles

/-! ## Sizes -/

/-- A size, if there is one, is a size that a burst can have. -/
def Draft.Sound (draft : Draft) : Prop :=
  ∀ size, draft.size = some size → 0 < size ∧ size ≤ Burst.maxSize

/-- The size of a dump is a size that a burst can have. -/
def Request.Sound : Request → Prop
  | dump _ size => 0 < size ∧ size ≤ Burst.maxSize
  | _ => True

/-- A value that is given once is the first one and was read. -/
theorem once_eq_ok_iff {α : Type} {old result : Option α} {new : Except Refusal α} :
    once old new = .ok result ↔ old = none ∧ ∃ value, new = .ok value ∧ result = some value := by
  cases old with
  | some value =>
      constructor
      · exact fun impossible => by cases impossible
      · rintro ⟨impossible, _⟩
        cases impossible
  | none =>
      cases new with
      | ok value => simp [once, Except.map, eq_comm]
      | error refusal => simp [once, Except.map]

theorem readNumeral_eq_ok_iff {α : Type} {result : Except Text.NumeralFault α} {value : α} :
    readNumeral result = .ok value ↔ result = .ok value := by
  cases result with
  | ok found =>
      constructor
      · rintro ⟨⟩
        rfl
      · rintro ⟨⟩
        rfl
  | error fault =>
      constructor
      · exact fun impossible => by cases impossible
      · exact fun impossible => by cases impossible

namespace Draft

/-- Only a size that was read changes the size of a draft. -/
theorem size_put {draft next : Draft} {setting : Setting} {text : String}
    (given : draft.put setting text = .ok next) :
    next.size = draft.size ∨
      ∃ size, Text.parseSize Burst.maxSize text = .ok size ∧ next.size = some size := by
  cases setting with
  | size =>
      obtain ⟨new, taken, rest⟩ := bind_eq_ok_iff.mp given
      obtain ⟨-, size, read, rfl⟩ := once_eq_ok_iff.mp taken
      cases rest
      exact .inr ⟨size, readNumeral_eq_ok_iff.mp read, rfl⟩
  | _ =>
      obtain ⟨new, -, rest⟩ := bind_eq_ok_iff.mp given
      cases rest
      exact .inl rfl

theorem invariant_sound : Draft.Invariant Draft.Sound where
  blank := fun size impossible => by cases impossible
  put := by
    intro draft next setting text sound given size found
    rcases size_put given with same | ⟨read, parsed, new⟩
    · exact sound size (same ▸ found)
    · obtain rfl : read = size := Option.some.inj (new.symm.trans found)
      exact (Text.parseSize_eq_ok_iff.mp parsed).2
  putExtended := by
    intro draft next sound given
    rw [putExtended] at given
    split at given
    · cases given
    · cases given
      exact sound

end Draft

theorem required_eq_ok_iff {α : Type} {value : Option α} {found : α} :
    required value = .ok found ↔ value = some found := by
  cases value <;> simp [required]

/-- A draft makes a request with its own size. -/
theorem Verb.sound_request {verb : Verb} {draft : Draft} {request : Request}
    (sound : draft.Sound) (made : verb.request draft = .ok request) : request.Sound := by
  cases verb with
  | probe =>
      cases made
      trivial
  | read =>
      obtain ⟨address, -, rest⟩ := bind_eq_ok_iff.mp made
      cases rest
      trivial
  | write =>
      obtain ⟨address, -, rest⟩ := bind_eq_ok_iff.mp made
      obtain ⟨value, -, rest⟩ := bind_eq_ok_iff.mp rest
      cases rest
      trivial
  | dump =>
      obtain ⟨address, -, rest⟩ := bind_eq_ok_iff.mp made
      obtain ⟨size, given, rest⟩ := bind_eq_ok_iff.mp rest
      cases rest
      exact sound size (required_eq_ok_iff.mp given)
  | load =>
      obtain ⟨source, -, rest⟩ := bind_eq_ok_iff.mp made
      obtain ⟨address, -, rest⟩ := bind_eq_ok_iff.mp rest
      cases rest
      trivial
  | version =>
      cases made
      trivial

/-- A command line that was read asks for no dump of a size that no burst can have. -/
theorem sound_of_parseArguments {arguments : List String} {defaultPort : Option String}
    {invocation : Invocation} (parsed : parseArguments arguments defaultPort = .ok invocation) :
    invocation.request.Sound := by
  obtain ⟨⟨progress, command⟩, -, rest⟩ := bind_eq_ok_iff.mp parsed
  cases command with
  | none =>
      obtain ⟨draft, -, last⟩ := bind_eq_ok_iff.mp rest
      obtain ⟨draft, -, last⟩ := bind_eq_ok_iff.mp last
      split at last <;> cases last
  | some command =>
      obtain ⟨verb, remaining⟩ := command
      obtain ⟨after, read, rest⟩ := bind_eq_ok_iff.mp rest
      obtain ⟨_, -, rest⟩ := bind_eq_ok_iff.mp rest
      obtain ⟨request, made, rest⟩ := bind_eq_ok_iff.mp rest
      obtain ⟨settled, -, rest⟩ := bind_eq_ok_iff.mp rest
      obtain ⟨_, -, rest⟩ := bind_eq_ok_iff.mp rest
      cases rest
      exact verb.sound_request (Draft.invariant_sound.of_readCommand read) made

end RegisterBridge.Console
