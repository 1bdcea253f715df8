import PhraseKey.Passphrase
import PhraseKey.Stateful

/-!
Dialogues for a passphrase. Lines are read one after another until one of them decides: it is the last one
that was asked for, or could not be read, or is not what was typed first. That line alone tells how the
dialogue ends, and nothing is read behind it.
-/

namespace PhraseKey.Passphrase

/-- A prompt, and what reading a line behind it came to. -/
structure Exchange where
  prompt : String
  line : Except Error (List UInt8)

/-- A reader whose lines come to this, in turn. It keeps what was exchanged so far. -/
def readScripted (lines : Nat → Except Error (List UInt8)) (prompt : String) :
    ExceptT Error (StateM (List Exchange)) (List UInt8) :=
  ExceptT.mk fun exchanges =>
    (lines exchanges.length, exchanges ++ [⟨prompt, lines exchanges.length⟩])

/-- How a dialogue over these lines ends, and everything that is exchanged in it. -/
def dialogue (lines : Nat → Except Error (List UInt8)) (count : Nat) :
    Except Error (List UInt8) × List Exchange :=
  (confirm (readScripted lines) count).run.run []

variable {lines : Nat → Except Error (List UInt8)} {count k : Nat}

/-- The exchange about the line with this number. All but the first line are repetitions. -/
def exchange (lines : Nat → Except Error (List UInt8)) (k : Nat) : Exchange :=
  ⟨if k = 0 then firstPrompt else repeatPrompt, lines k⟩

/-- The exchanges about the first `count` lines. -/
def exchanges (lines : Nat → Except Error (List UInt8)) (count : Nat) : List Exchange :=
  (List.range count).map (exchange lines)

theorem length_exchanges (lines : Nat → Except Error (List UInt8)) (count : Nat) :
    (exchanges lines count).length = count := by
  simp [exchanges]

/-- The right prompt adds the next exchange. -/
theorem run_readScripted {prompt : String} (h : (exchange lines k).prompt = prompt) :
    (readScripted lines prompt).run.run (exchanges lines k) = (lines k, exchanges lines (k + 1)) := by
  change (lines (exchanges lines k).length,
    exchanges lines k ++ [⟨prompt, lines (exchanges lines k).length⟩]) = _
  rw [length_exchanges, ← h, exchanges, exchanges, List.range_succ, List.map_append]
  rfl

/-- The ways for a dialogue with `count` confirmations to end: the number of the line that decides, and
the result. -/
inductive Ends (lines : Nat → Except Error (List UInt8)) (count : Nat) :
    Nat → Except Error (List UInt8) → Prop where
  /-- All lines are the same passphrase, and the last one is that of the last confirmation. -/
  | confirmed {passphrase : List UInt8} (same : ∀ i ≤ count, lines i = .ok passphrase) :
      Ends lines count count (.ok passphrase)
  /-- A line cannot be read, and those in front of it are the same. -/
  | unreadable {k : Nat} (passphrase : List UInt8) {error : Error} (asked : k ≤ count)
      (same : ∀ i < k, lines i = .ok passphrase) (failed : lines k = .error error) :
      Ends lines count k (.error error)
  /-- A line differs from those in front of it, which are the same. -/
  | differing {k : Nat} {passphrase line : List UInt8} (asked : k ≤ count) (repeated : 0 < k)
      (same : ∀ i < k, lines i = .ok passphrase) (read : lines k = .ok line)
      (differs : line ≠ passphrase) : Ends lines count k (.error .differingPassphrases)

namespace Ends

variable {result : Except Error (List UInt8)} {passphrase : List UInt8}

theorem asked (h : Ends lines count k result) : k ≤ count := by
  cases h with
  | confirmed => exact Nat.le_refl count
  | unreadable _ asked | differing asked => exact asked

theorem exists_same (h : Ends lines count k result) :
    ∃ passphrase, ∀ i < k, lines i = .ok passphrase := by
  cases h with
  | confirmed same => exact ⟨_, fun i hi => same i (Nat.le_of_lt hi)⟩
  | unreadable _ _ same | differing _ _ same => exact ⟨_, same⟩

theorem same_of_ok (h : Ends lines count k (.ok passphrase)) :
    ∀ i ≤ count, lines i = .ok passphrase := by
  cases h with
  | confirmed same => exact same

/-- Of lines that are all the same only the last one decides. -/
theorem eq_of_same (h : Ends lines count k result) (same : ∀ i ≤ k, lines i = .ok passphrase) :
    k = count ∧ result = .ok passphrase := by
  have hLine := same k (Nat.le_refl k)
  have hFirst := same 0 (Nat.zero_le k)
  cases h with
  | confirmed same' => exact ⟨rfl, (same' 0 (Nat.zero_le count)).symm.trans hFirst⟩
  | unreadable _ _ _ failed =>
      rw [failed] at hLine
      cases hLine
  | differing _ repeated same' read differs =>
      rw [read] at hLine
      rw [same' 0 repeated] at hFirst
      cases hLine
      cases hFirst
      exact absurd rfl differs

/-- None of the lines in front of the one that decides would have decided. -/
theorem le {j : Nat} {result' : Except Error (List UInt8)} (h : Ends lines count k result)
    (h' : Ends lines count j result') : k ≤ j := by
  obtain ⟨passphrase, hSame⟩ := h.exists_same
  refine Nat.le_of_not_lt fun hBefore => ?_
  have hLast := (h'.eq_of_same fun i hi => hSame i (by omega)).1
  have hAsked := h.asked
  omega

/-- There is one way to end. -/
theorem unique {j : Nat} {result' : Except Error (List UInt8)} (h : Ends lines count k result)
    (h' : Ends lines count j result') : j = k ∧ result' = result := by
  have hLine : j = k := Nat.le_antisymm (h'.le h) (h.le h')
  subst hLine
  refine ⟨rfl, ?_⟩
  cases h with
  | confirmed same => exact (h'.eq_of_same same).2
  | unreadable _ _ _ failed =>
      cases h' with
      | confirmed same => exact (same count (Nat.le_refl count)).symm.trans failed
      | unreadable _ _ _ failed' => exact failed'.symm.trans failed
      | differing _ _ _ read =>
          rw [read] at failed
          cases failed
  | differing asked repeated same read differs =>
      cases h' with
      | confirmed same' =>
          exact ((differing asked repeated same read differs).eq_of_same same').2.symm
      | unreadable _ _ _ failed =>
          rw [read] at failed
          cases failed
      | differing => rfl

end Ends

/-- Asking for more confirmations, when all lines so far are the same. The induction is on the
confirmations that are left. -/
theorem run_repeatLine {passphrase : List UInt8} (count : Nat)
    (same : ∀ i ≤ k, lines i = .ok passphrase) :
    ∃ j result, Ends lines (k + count) j result ∧
      (repeatLine (readScripted lines) passphrase count).run.run (exchanges lines (k + 1)) =
        (result.map fun _ => (), exchanges lines (j + 1)) := by
  induction count generalizing k with
  | zero => exact ⟨k, _, .confirmed same, rfl⟩
  | succ count ih =>
      have hBefore : ∀ i < k + 1, lines i = .ok passphrase := fun i hi => same i (by omega)
      have hRead : (readScripted lines repeatPrompt).run.run (exchanges lines (k + 1)) =
          (lines (k + 1), exchanges lines (k + 2)) := run_readScripted rfl
      rw [repeatLine]
      cases hLine : lines (k + 1) with
      | error error =>
          rw [hLine] at hRead
          exact ⟨k + 1, _, .unreadable passphrase (by omega) hBefore hLine,
            run_bind_of_error hRead _⟩
      | ok line =>
          rw [hLine] at hRead
          rw [run_bind_of_ok hRead]
          by_cases differs : line = passphrase
          · subst differs
            have hSame : ∀ i ≤ k + 1, lines i = .ok line := by
              intro i hi
              rcases Nat.lt_or_eq_of_le hi with hLess | rfl
              · exact hBefore i hLess
              · exact hLine
            obtain ⟨j, result, hEnds, hRun⟩ := ih hSame
            rw [Nat.add_right_comm] at hEnds
            refine ⟨j, result, hEnds, ?_⟩
            rw [if_neg (not_not_intro rfl)]
            exact hRun
          · refine ⟨k + 1, _, .differing (by omega) (by omega) hBefore hLine differs, ?_⟩
            rw [if_pos differs]
            rfl

/-- A dialogue ends in one of the ways. -/
theorem ends_dialogue (lines : Nat → Except Error (List UInt8)) (count : Nat) :
    ∃ k result, Ends lines count k result ∧
      dialogue lines count = (result, exchanges lines (k + 1)) := by
  have hRead : (readScripted lines firstPrompt).run.run [] = (lines 0, exchanges lines 1) :=
    run_readScripted (k := 0) rfl
  rw [dialogue, confirm]
  cases hLine : lines 0 with
  | error error =>
      rw [hLine] at hRead
      exact ⟨0, _, .unreadable [] (Nat.zero_le count) (fun _ hi => absurd hi (Nat.not_lt_zero _)) hLine,
        run_bind_of_error hRead _⟩
  | ok passphrase =>
      rw [hLine] at hRead
      rw [run_bind_of_ok hRead]
      have hSame : ∀ i ≤ 0, lines i = .ok passphrase := by
        intro i hi
        rw [Nat.le_zero.mp hi, hLine]
      obtain ⟨k, result, hEnds, hRun⟩ := run_repeatLine count hSame
      rw [Nat.zero_add] at hEnds
      refine ⟨k, result, hEnds, ?_⟩
      cases result with
      | error error => exact run_bind_of_error hRun _
      | ok found =>
          rw [run_bind_of_ok hRun]
          have hFirst := hEnds.same_of_ok 0 (Nat.zero_le count)
          rw [hLine] at hFirst
          cases hFirst
          rfl

/-- Confirmation is exact. In every dialogue there is one line that decides, at the latest that of the last
confirmation. It is the first line that cannot be read or differs from those in front of it, or else the
last one. Exactly the lines up to this one are read, each behind one prompt, and the dialogue comes to what
this line comes to: its error, the error of the input about different lines, or the passphrase, and that
exactly if all lines can be read and are the same. -/
theorem confirm_exact (lines : Nat → Except Error (List UInt8)) (count : Nat) :
    (∃ k ≤ count, ∃ result, dialogue lines count = (result, exchanges lines (k + 1)) ∧
      (∀ j result', Ends lines count j result' ↔ j = k ∧ result' = result) ∧
      ∀ passphrase, result = .ok passphrase ↔ ∀ i ≤ count, lines i = .ok passphrase) ∧
    Error.differingPassphrases.kind = .input ∧
    Error.differingPassphrases.message = "passphrases do not match" := by
  obtain ⟨k, result, hEnds, hDialogue⟩ := ends_dialogue lines count
  refine ⟨⟨k, hEnds.asked, result, hDialogue, ?_, ?_⟩, rfl, rfl⟩
  · intro j result'
    constructor
    · exact hEnds.unique
    · rintro ⟨rfl, rfl⟩
      exact hEnds
  · intro passphrase
    constructor
    · rintro rfl
      exact hEnds.same_of_ok
    · intro same
      exact (hEnds.eq_of_same fun i hi => same i (Nat.le_trans hi hEnds.asked)).2

/-- A different line ends the dialogue, before one that cannot be read. -/
theorem confirm_exact_differing :
    let lines : Nat → Except Error (List UInt8) := fun i =>
      if i < 2 then .ok [0x61] else if i = 2 then .ok [0x62] else .error .missingIdentity
    dialogue lines 4 = (.error .differingPassphrases,
      [⟨"passphrase: ", .ok [0x61]⟩, ⟨"passphrase (repeat): ", .ok [0x61]⟩,
        ⟨"passphrase (repeat): ", .ok [0x62]⟩]) := by
  intro lines
  obtain ⟨⟨k, -, result, hDialogue, hEnds, -⟩, -⟩ := confirm_exact lines 4
  have hSame : ∀ i < 2, lines i = .ok [0x61] := fun i hi => if_pos hi
  have hDiffers : Ends lines 4 2 (.error .differingPassphrases) :=
    .differing (by decide) (by decide) hSame rfl (by decide)
  obtain ⟨rfl, rfl⟩ := (hEnds _ _).mp hDiffers
  exact hDialogue

end PhraseKey.Passphrase
