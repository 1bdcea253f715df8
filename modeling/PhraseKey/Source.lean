import PhraseKey.Octets
import PhraseKey.Source.Failure

/-!
Readers outside the program. A source delivers its octets in pieces of any size, with interruptions
between them, and then ends, for good or with a failure. Reading goes on after an interruption, so
neither the pieces nor the interruptions can be told from what is read.
-/

namespace PhraseKey

/-- What one call to a reader comes back with. A piece is never empty. -/
inductive Delivery where
  | piece (first : UInt8) (rest : List UInt8)
  | interruption
  deriving DecidableEq

namespace Delivery

def octets : Delivery → List UInt8
  | piece first rest => first :: rest
  | interruption => []

/-- A piece of any size, if there is anything in it. -/
def ofOctets : List UInt8 → List Delivery
  | [] => []
  | first :: rest => [piece first rest]

@[simp]
theorem flatMap_octets_ofOctets (octets : List UInt8) :
    (ofOctets octets).flatMap Delivery.octets = octets := by
  cases octets <;> simp [ofOctets, Delivery.octets]

end Delivery

/-- How a source ends when everything is delivered. -/
inductive Ending where
  | endOfData
  | failed (failure : Failure)
  deriving DecidableEq

/-- A reader that is yet to make these deliveries. -/
structure Source where
  deliveries : List Delivery
  ending : Ending
  deriving DecidableEq

namespace Source

/-- All octets that are yet to come. -/
def octets (source : Source) : List UInt8 :=
  source.deliveries.flatMap Delivery.octets

/-- A source that delivers everything at once and ends. -/
def ofOctets (octets : List UInt8) : Source :=
  ⟨Delivery.ofOctets octets, .endOfData⟩

@[simp]
theorem octets_ofOctets (octets : List UInt8) : (ofOctets octets).octets = octets := by
  simp [ofOctets, Source.octets]

/-- Gather `n` octets from the deliveries, with what was gathered and the deliveries left. A piece
that holds more than was missing is left with its rest. -/
def gather : Nat → List Delivery → List UInt8 × List Delivery
  | 0, deliveries => ([], deliveries)
  | _ + 1, [] => ([], [])
  | n + 1, .interruption :: deliveries => gather (n + 1) deliveries
  | n + 1, .piece first rest :: deliveries =>
    if rest.length ≤ n then
      let (gathered, left) := gather (n - rest.length) deliveries
      (first :: rest ++ gathered, left)
    else
      (first :: rest.take n, Delivery.ofOctets (rest.drop n) ++ deliveries)

/-- What is gathered does not depend on the pieces. -/
theorem gather_fst (n : Nat) (deliveries : List Delivery) :
    (gather n deliveries).1 = (deliveries.flatMap Delivery.octets).take n := by
  fun_induction gather n deliveries with
  | case1 => simp
  | case2 => simp
  | case3 n deliveries ih => simpa [Delivery.octets] using ih
  | case4 n first rest deliveries short gathered left eq ih =>
    rw [eq] at ih
    simp only at ih
    simp [Delivery.octets, List.take_append, List.take_of_length_le short, ih]
  | case5 n first rest deliveries long =>
    have : n - rest.length = 0 := by omega
    simp [Delivery.octets, List.take_append, this]

/-- What is left are all octets behind those gathered. -/
theorem flatMap_octets_gather_snd (n : Nat) (deliveries : List Delivery) :
    (gather n deliveries).2.flatMap Delivery.octets =
      (deliveries.flatMap Delivery.octets).drop n := by
  fun_induction gather n deliveries with
  | case1 => simp
  | case2 => simp
  | case3 n deliveries ih => simpa [Delivery.octets] using ih
  | case4 n first rest deliveries short gathered left eq ih =>
    rw [eq] at ih
    simp only at ih
    simp [Delivery.octets, List.drop_append, List.drop_of_length_le short, ih]
  | case5 n first rest deliveries long =>
    have : n - rest.length = 0 := by omega
    simp [Delivery.octets, List.drop_append, this]

/-- Exactly `n` octets, or how the source ended before. Octets that came before a premature end are
consumed. -/
def readExact (n : Nat) (source : Source) : Except Ending (Octets n) × Source :=
  let (gathered, left) := gather n source.deliveries
  let result := if h : gathered.length = n then .ok ⟨gathered, h⟩ else .error source.ending
  (result, { source with deliveries := left })

theorem octets_readExact_snd (n : Nat) (source : Source) :
    (source.readExact n).2.octets = source.octets.drop n :=
  flatMap_octets_gather_snd n source.deliveries

theorem readExact_fst_of_le {n : Nat} {source : Source} (enough : n ≤ source.octets.length) :
    (source.readExact n).1 = .ok ⟨source.octets.take n, List.length_take_of_le enough⟩ := by
  have gathered : (gather n source.deliveries).1 = source.octets.take n := gather_fst ..
  simp [readExact, gathered, enough]

theorem readExact_fst_of_lt {n : Nat} {source : Source} (short : source.octets.length < n) :
    (source.readExact n).1 = .error source.ending := by
  have gathered : (gather n source.deliveries).1 = source.octets.take n := gather_fst ..
  have : min n source.octets.length ≠ n := by omega
  simp [readExact, gathered, this]

/-- Everything up to the end, if the source ends for good. It is consumed in any case. -/
def readToEnd (source : Source) : Except Failure (List UInt8) × Source :=
  let result := match source.ending with
    | .endOfData => .ok source.octets
    | .failed failure => .error failure
  (result, { source with deliveries := [] })

end Source

end PhraseKey
