import PhraseKey.CommandLine.Usage
import PhraseKey.Logged

/-!
A switch in front of all other words. Reading the other words is not disturbed by it, as long as they
do not give the same switch again.
-/

namespace PhraseKey.CommandLine

open PhraseKey.Outcome (exists_of_bind_eq_ok)

/-- The same arguments with a switch that was given before them. -/
def Arguments.behind (switch : Switch) (arguments : Arguments) : Arguments :=
  { arguments with switches := arguments.switches ++ [switch] }

theorem Arguments.has_behind (arguments : Arguments) (first switch : Switch) :
    (arguments.behind first).has switch = (arguments.has switch || decide (switch = first)) := by
  simp [behind, has]

namespace Progress

variable {switch : Switch}

def behind (switch : Switch) (progress : Progress) : Progress :=
  { progress with arguments := progress.arguments.behind switch }

/-- Settings are taken over whatever the switches are. -/
theorem assign_behind (switch : Switch) (arguments : Arguments) (setting : Setting) (text : String) :
    assign (arguments.behind switch) setting text =
      (assign arguments setting text).map (Arguments.behind switch) := by
  cases setting with
  | time =>
      change (once arguments.time >>= fun _ => number text >>= _) =
        Except.map _ (once arguments.time >>= fun _ => number text >>= _)
      cases once arguments.time <;> cases number text <;> rfl
  | input =>
      change (once arguments.input >>= fun _ => path text >>= _) =
        Except.map _ (once arguments.input >>= fun _ => path text >>= _)
      cases once arguments.input <;> cases path text <;> rfl
  | load =>
      change (once arguments.load >>= fun _ => path text >>= _) =
        Except.map _ (once arguments.load >>= fun _ => path text >>= _)
      cases once arguments.load <;> cases path text <;> rfl
  | repetitions =>
      change (once arguments.repetitions >>= fun _ => number text >>= _) =
        Except.map _ (once arguments.repetitions >>= fun _ => number text >>= _)
      cases once arguments.repetitions <;> cases number text <;> rfl
  | uid =>
      change (once arguments.uid >>= fun _ => _) = Except.map _ (once arguments.uid >>= fun _ => _)
      cases once arguments.uid <;> rfl

/-- No setting gives a switch. -/
theorem switches_of_assign_eq_ok {arguments taken : Arguments} {setting : Setting} {text : String}
    (h : assign arguments setting text = .ok taken) : taken.switches = arguments.switches := by
  cases setting <;> obtain ⟨_, -, h⟩ := exists_of_bind_eq_ok h
  case uid => cases h; rfl
  all_goals
    obtain ⟨_, -, h⟩ := exists_of_bind_eq_ok h
    cases h
    rfl

theorem settle_behind (switch : Switch) (progress : Progress) :
    (progress.behind switch).settle = progress.settle.map (Arguments.behind switch) := by
  obtain ⟨arguments, pending⟩ := progress
  match pending with
  | none => rfl
  | some (_, none) => rfl
  | some (setting, some text) => exact assign_behind switch arguments setting text

theorem switches_of_settle_eq_ok {progress : Progress} {arguments : Arguments}
    (h : progress.settle = .ok arguments) : arguments.switches = progress.arguments.switches := by
  obtain ⟨given, pending⟩ := progress
  match pending with
  | none =>
      cases h
      rfl
  | some (_, none) => cases h
  | some (setting, some text) => exact switches_of_assign_eq_ok h

/-- Whatever a step makes of the words so far, it makes of the same words behind the switch, unless it
gives that switch. No step takes a switch back. -/
def Carries (switch : Switch) (step : Progress → Except Refusal Progress) : Prop :=
  ∀ progress next, step progress = .ok next → next.arguments.has switch = false →
    progress.arguments.has switch = false ∧ step (progress.behind switch) = .ok (next.behind switch)

theorem Carries.bind {first second : Progress → Except Refusal Progress}
    (hFirst : Carries switch first) (hSecond : Carries switch second) :
    Carries switch fun progress => first progress >>= second := by
  intro progress next h hLacks
  obtain ⟨middle, hMiddle, hNext⟩ := exists_of_bind_eq_ok h
  obtain ⟨hMiddleLacks, hNext⟩ := hSecond middle next hNext hLacks
  obtain ⟨hProgressLacks, hMiddle⟩ := hFirst progress middle hMiddle hMiddleLacks
  refine ⟨hProgressLacks, ?_⟩
  change (first (progress.behind switch) >>= second) = _
  rw [hMiddle]
  exact hNext

theorem carries_ok : Carries switch fun progress => .ok progress := by
  intro progress next h hLacks
  cases h
  exact ⟨hLacks, rfl⟩

theorem carries_error (refusal : Refusal) : Carries switch fun _ => .error refusal := by
  intro progress next h
  cases h

/-- A step that settles first and goes on from the arguments. -/
theorem carries_settle {next : Arguments → Except Refusal Progress}
    (hNext : ∀ arguments result, next arguments = .ok result → result.arguments.has switch = false →
      arguments.has switch = false ∧ next (arguments.behind switch) = .ok (result.behind switch)) :
    Carries switch fun progress => progress.settle >>= next := by
  intro progress result h hLacks
  obtain ⟨arguments, hSettle, hResult⟩ := exists_of_bind_eq_ok h
  obtain ⟨hArguments, hResult⟩ := hNext arguments result hResult hLacks
  constructor
  · rw [Arguments.has, ← switches_of_settle_eq_ok hSettle]
    exact hArguments
  · change ((progress.behind switch).settle >>= next) = _
    rw [settle_behind, hSettle]
    exact hResult

theorem carries_turnOn (given : Switch) : Carries switch fun progress => progress.turnOn given := by
  apply carries_settle
  intro arguments result h hLacks
  by_cases hGiven : arguments.has given
  · rw [if_pos hGiven] at h
    cases h
  · rw [if_neg hGiven] at h
    cases h
    simp only [Arguments.has, List.contains_cons, Bool.or_eq_false_iff, beq_eq_false_iff_ne] at hLacks
    have hOther : ¬ (arguments.behind switch).has given := by
      rw [Arguments.has_behind]
      simp [hGiven, Ne.symm hLacks.1]
    rw [if_neg hOther]
    exact ⟨hLacks.2, rfl⟩

theorem carries_attach (setting : Setting) (text : String) :
    Carries switch fun progress => progress.attach setting text := by
  apply carries_settle
  intro arguments result h hLacks
  obtain ⟨taken, hTaken, hResult⟩ := exists_of_bind_eq_ok h
  cases hResult
  constructor
  · rw [Arguments.has, ← switches_of_assign_eq_ok hTaken]
    exact hLacks
  · rw [assign_behind, hTaken]
    rfl

theorem carries_await (setting : Setting) : Carries switch fun progress => progress.await setting := by
  apply carries_settle
  intro arguments result h hLacks
  cases h
  exact ⟨hLacks, rfl⟩

theorem carries_display (refusal : Refusal) :
    Carries switch fun progress => progress.display refusal := by
  apply carries_settle
  intro arguments result h
  cases h

theorem carries_value (word : String) : Carries switch fun progress => progress.value word := by
  intro progress next h hLacks
  obtain ⟨arguments, pending⟩ := progress
  match pending with
  | none => cases h
  | some (_, some _) => cases h
  | some (setting, none) =>
      cases h
      exact ⟨hLacks, rfl⟩

theorem carries_shortOptions (names : List Char) :
    Carries switch fun progress => progress.shortOptions names := by
  induction names with
  | nil => exact carries_ok
  | cons name rest ih =>
      simp only [shortOptions]
      cases shortChoice? name with
      | none => exact carries_error _
      | some choice =>
          cases choice with
          | help => exact carries_display _
          | version => exact carries_display _
          | switch given => exact (carries_turnOn given).bind ih
          | setting setting =>
              dsimp only
              split
              · exact carries_await setting
              · exact carries_attach setting _
              · exact carries_attach setting _

theorem carries_longOption (word : List Char) :
    Carries switch fun progress => progress.longOption word := by
  simp only [longOption]
  split
  · exact carries_error _
  · exact carries_await _
  · exact carries_attach _ _
  · exact carries_error _
  · exact carries_display _
  · exact carries_display _
  · exact carries_turnOn _

theorem carries_words (rest : List String) : Carries switch fun progress => progress.words rest := by
  induction rest with
  | nil => exact carries_ok
  | cons word rest ih =>
      simp only [words]
      split
      · split
        · exact carries_ok
        · exact carries_error _
      · exact (carries_longOption _).bind ih
      · exact (carries_shortOptions _).bind ih
      · exact (carries_value _).bind ih

end Progress

/-- Armor excludes nothing. -/
theorem conflicting_behind_armor (arguments : Arguments) :
    conflicting (arguments.behind .armor) = conflicting arguments := by
  simp only [conflicting, Arguments.has_behind]
  simp [Arguments.behind]

/-- Words without the armor switch are accepted behind it, too, and ask for the same otherwise. -/
theorem parse_armor_cons {words : List String} {arguments : Arguments}
    (h : parse words = .ok arguments) (hLacks : arguments.has .armor = false) :
    parse ("--armor" :: words) = .ok (arguments.behind .armor) := by
  obtain ⟨progress, hWords, h⟩ := exists_of_bind_eq_ok h
  obtain ⟨settled, hSettle, h⟩ := exists_of_bind_eq_ok h
  by_cases hConflict : conflicting settled
  · rw [if_pos hConflict] at h
    cases h
  · rw [if_neg hConflict] at h
    cases h
    have hProgress : progress.arguments.has .armor = false := by
      rw [Arguments.has, ← Progress.switches_of_settle_eq_ok hSettle]
      exact hLacks
    have hFirst : Progress.start.words ("--armor" :: words) =
        (Progress.start.behind .armor).words words := rfl
    have hBehind : (Progress.start.behind .armor).words words = .ok (progress.behind .armor) :=
      (Progress.carries_words words .start progress hWords hProgress).2
    rw [parse, hFirst, hBehind]
    change ((progress.behind .armor).settle >>= _) = _
    rw [Progress.settle_behind, hSettle]
    change (if conflicting (arguments.behind .armor) then _ else _) = _
    rw [conflicting_behind_armor, if_neg hConflict]
    rfl

end PhraseKey.CommandLine
