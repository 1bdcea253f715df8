import PhraseKey.Proofs.PacketAcceptance

/-!
What a reading asks of its source. It takes the same octets and comes to the same result however they
are delivered, and if the deliveries hold all that it asks for, nothing behind them matters, neither
further deliveries nor the way the source ends. If they do not, it takes all of them and fails as the
source does.
-/

namespace PhraseKey

namespace Source

/-- Both sources deliver the same octets and end the same way. The pieces and the interruptions may
differ. -/
structure SameInput (first second : Source) : Prop where
  octets_eq : first.octets = second.octets
  ending_eq : first.ending = second.ending

/-- Deliveries behind those that hold enough are left as they are. -/
theorem gather_append {n : Nat} {deliveries : List Delivery}
    (hEnough : n ≤ (deliveries.flatMap Delivery.octets).length) (more : List Delivery) :
    gather n (deliveries ++ more) = ((gather n deliveries).1, (gather n deliveries).2 ++ more) := by
  fun_induction gather n deliveries with
  | case1 => simp [gather]
  | case2 => simp at hEnough
  | case3 n deliveries ih => exact ih hEnough
  | case4 n first rest deliveries short gathered left eq ih =>
      have hRest : n - rest.length ≤ (deliveries.flatMap Delivery.octets).length := by
        rw [List.flatMap_cons, List.length_append, Delivery.octets, List.length_cons] at hEnough
        omega
      rw [List.cons_append, gather, if_pos short, ih hRest, eq]
  | case5 n first rest deliveries long =>
      rw [List.cons_append, gather, if_neg long, List.append_assoc]

/-- What does not hold enough is taken whole, with the interruptions. -/
theorem gather_snd_of_lt {n : Nat} {deliveries : List Delivery}
    (hShort : (deliveries.flatMap Delivery.octets).length < n) : (gather n deliveries).2 = [] := by
  fun_induction gather n deliveries with
  | case1 => simp at hShort
  | case2 => rfl
  | case3 n deliveries ih => exact ih hShort
  | case4 n first rest deliveries short gathered left eq ih =>
      have hRest : (deliveries.flatMap Delivery.octets).length < n - rest.length := by
        rw [List.flatMap_cons, List.length_append, Delivery.octets, List.length_cons] at hShort
        omega
      rw [eq] at ih
      exact ih hRest
  | case5 n first rest deliveries long =>
      rw [List.flatMap_cons, List.length_append, Delivery.octets, List.length_cons] at hShort
      omega

end Source

namespace Reading

variable {α β : Type}

/-- Sources of the same input are read with the same result and log, and lose the same octets. -/
structure Uniform (reading : Reading α) : Prop where
  logged_eq : ∀ {first second}, first.SameInput second →
    (reading.run first).1 = (reading.run second).1
  taken_eq : ∀ {first second}, first.SameInput second → ∃ front,
    first.octets = front ++ (reading.run first).2.octets ∧
      second.octets = front ++ (reading.run second).2.octets
  ending_eq : ∀ source, (reading.run source).2.ending = source.ending

theorem Uniform.sameInput_left {reading : Reading α} (hUniform : reading.Uniform)
    {first second : Source} (hSame : first.SameInput second) :
    (reading.run first).2.SameInput (reading.run second).2 := by
  obtain ⟨front, hFirst, hSecond⟩ := hUniform.taken_eq hSame
  constructor
  · rw [hSame.octets_eq, hSecond] at hFirst
    exact (List.append_cancel_left hFirst).symm
  · rw [hUniform.ending_eq, hUniform.ending_eq, hSame.ending_eq]

theorem uniform_ofLogged (logged : Logged α) : (ofLogged logged).Uniform where
  logged_eq _ := rfl
  taken_eq _ := ⟨[], rfl, rfl⟩
  ending_eq _ := rfl

theorem uniform_ofExcept (outcome : Except Error α) : (ofLogged (.ofExcept outcome)).Uniform :=
  uniform_ofLogged _

theorem Uniform.bind {first : Reading α} {next : α → Reading β} (hFirst : first.Uniform)
    (hNext : ∀ value, (next value).Uniform) : (first >>= next).Uniform := by
  constructor
  case logged_eq =>
    intro a b hSame
    have hLogged := hFirst.logged_eq hSame
    have hLeft := hFirst.sameInput_left hSame
    cases hOutcome : (first.run b).1.outcome with
    | error error => rw [run_bind_of_error (hLogged ▸ hOutcome), run_bind_of_error hOutcome, hLogged]
    | ok value =>
        rw [run_bind_of_ok (hLogged ▸ hOutcome), run_bind_of_ok hOutcome, hLogged]
        rw [(hNext value).logged_eq hLeft]
  case taken_eq =>
    intro a b hSame
    have hLogged := hFirst.logged_eq hSame
    obtain ⟨front, hA, hB⟩ := hFirst.taken_eq hSame
    cases hOutcome : (first.run b).1.outcome with
    | error error =>
        rw [run_bind_of_error (hLogged ▸ hOutcome), run_bind_of_error hOutcome]
        exact ⟨front, hA, hB⟩
    | ok value =>
        obtain ⟨back, hRestA, hRestB⟩ := (hNext value).taken_eq (hFirst.sameInput_left hSame)
        rw [run_bind_of_ok (hLogged ▸ hOutcome), run_bind_of_ok hOutcome]
        refine ⟨front ++ back, ?_, ?_⟩
        · rw [List.append_assoc, ← hRestA, ← hA]
        · rw [List.append_assoc, ← hRestB, ← hB]
  case ending_eq =>
    intro source
    cases hOutcome : (first.run source).1.outcome with
    | error error => rw [run_bind_of_error hOutcome, hFirst.ending_eq]
    | ok value => rw [run_bind_of_ok hOutcome, (hNext value).ending_eq, hFirst.ending_eq]

/-- Everything is read, and taken even if the source fails in the end. -/
theorem uniform_toEnd : toEnd.Uniform where
  logged_eq := by
    intro first second hSame
    simp only [run, toEnd, Source.readToEnd, hSame.octets_eq, hSame.ending_eq]
  taken_eq := by
    intro first second hSame
    refine ⟨first.octets, (List.append_nil _).symm, ?_⟩
    rw [hSame.octets_eq]
    exact (List.append_nil _).symm
  ending_eq _ := rfl

/-- These deliveries hold all that the reading asks for. It comes to its result without what follows
them or the end of the source, and leaves all of that as it is. -/
def IsDone (reading : Reading α) (deliveries : List Delivery) (logged : Logged α)
    (kept : List Delivery) : Prop :=
  ∀ more ending, reading.run ⟨deliveries ++ more, ending⟩ = (logged, ⟨kept ++ more, ending⟩)

/-- These deliveries do not hold all that the reading asks for. It takes all of them and fails as the
source ends. -/
def RunsShort (reading : Reading α) (deliveries : List Delivery) : Prop :=
  ∀ ending, (reading.run ⟨deliveries, ending⟩).1.outcome = .error ending.shortage ∧
    (reading.run ⟨deliveries, ending⟩).2 = ⟨[], ending⟩

/-- The octet strings that the reading needs more than, however they are delivered. -/
structure RunsShortOn (reading : Reading α) (short : List UInt8 → Prop) : Prop
    extends reading.Uniform where
  runsShort : ∀ {deliveries}, short (deliveries.flatMap Delivery.octets) →
    reading.RunsShort deliveries
  isDone : ∀ {deliveries}, ¬ short (deliveries.flatMap Delivery.octets) →
    ∃ logged kept, reading.IsDone deliveries logged kept

theorem RunsShort.bind {first : Reading α} {deliveries : List Delivery}
    (hShort : first.RunsShort deliveries) (next : α → Reading β) :
    (first >>= next).RunsShort deliveries := by
  intro ending
  obtain ⟨hOutcome, hLeft⟩ := hShort ending
  rw [run_bind_of_error hOutcome]
  exact ⟨rfl, hLeft⟩

theorem IsDone.run_eq {reading : Reading α} {deliveries kept : List Delivery} {logged : Logged α}
    (hDone : reading.IsDone deliveries logged kept) (ending : Ending) :
    reading.run ⟨deliveries, ending⟩ = (logged, ⟨kept, ending⟩) := by
  have hRun := hDone [] ending
  rwa [List.append_nil, List.append_nil] at hRun

theorem IsDone.bind_runsShort {first : Reading α} {next : α → Reading β}
    {deliveries kept : List Delivery} {logged : Logged α} {value : α}
    (hDone : first.IsDone deliveries logged kept) (hOutcome : logged.outcome = .ok value)
    (hNext : (next value).RunsShort kept) : (first >>= next).RunsShort deliveries := by
  intro ending
  have hRun := hDone.run_eq ending
  have hValue : (first.run ⟨deliveries, ending⟩).1.outcome = .ok value := by
    rw [hRun, hOutcome]
  rw [run_bind_of_ok hValue, hRun]
  exact hNext ending

theorem IsDone.bind_of_ok {first : Reading α} {next : α → Reading β}
    {deliveries kept rest : List Delivery} {logged : Logged α} {value : α} {result : Logged β}
    (hDone : first.IsDone deliveries logged kept) (hOutcome : logged.outcome = .ok value)
    (hNext : (next value).IsDone kept result rest) :
    (first >>= next).IsDone deliveries ⟨result.outcome, logged.log ++ result.log⟩ rest := by
  intro more ending
  have hRun := hDone more ending
  have hValue : (first.run ⟨deliveries ++ more, ending⟩).1.outcome = .ok value := by
    rw [hRun, hOutcome]
  rw [run_bind_of_ok hValue, hRun]
  dsimp only
  rw [hNext more ending]

theorem IsDone.bind_of_error {first : Reading α} {deliveries kept : List Delivery}
    {logged : Logged α} {error : Error} (hDone : first.IsDone deliveries logged kept)
    (hOutcome : logged.outcome = .error error) (next : α → Reading β) :
    (first >>= next).IsDone deliveries ⟨.error error, logged.log⟩ kept := by
  intro more ending
  have hRun := hDone more ending
  have hError : (first.run ⟨deliveries ++ more, ending⟩).1.outcome = .error error := by
    rw [hRun, hOutcome]
  rw [run_bind_of_error hError, hRun]

/-- Deliveries that hold enough are read like their octets. -/
theorem Uniform.run_ofOctets {reading : Reading α} (hUniform : reading.Uniform)
    {deliveries kept : List Delivery} {logged : Logged α}
    (hDone : reading.IsDone deliveries logged kept) :
    (reading.run (.ofOctets (deliveries.flatMap Delivery.octets))).1 = logged ∧
      (reading.run (.ofOctets (deliveries.flatMap Delivery.octets))).2.octets =
        kept.flatMap Delivery.octets := by
  have hSame : (Source.ofOctets (deliveries.flatMap Delivery.octets)).SameInput
      ⟨deliveries, .endOfData⟩ := ⟨Source.octets_ofOctets _, rfl⟩
  have hLogged := hUniform.logged_eq hSame
  have hLeft := (hUniform.sameInput_left hSame).octets_eq
  rw [hDone.run_eq] at hLogged hLeft
  exact ⟨hLogged, hLeft⟩

/-- The reading does not look at its source. -/
def ReadsNothing (reading : Reading α) : Prop :=
  ∃ logged, reading = ofLogged logged

theorem readsNothing_ofLogged (logged : Logged α) : (ofLogged logged).ReadsNothing :=
  ⟨logged, rfl⟩

theorem readsNothing_ofExcept (outcome : Except Error α) :
    (ofLogged (.ofExcept outcome)).ReadsNothing :=
  readsNothing_ofLogged _

theorem readsNothing_pure (value : α) : (pure value : Reading α).ReadsNothing :=
  readsNothing_ofLogged (pure value)

theorem readsNothing_ensure (condition : Prop) [Decidable condition] (error : Error) :
    (ensure condition error).ReadsNothing := by
  rw [ensure]
  split
  · exact readsNothing_pure ()
  · exact readsNothing_ofLogged _

theorem ofLogged_bind (first : Logged α) (next : α → Logged β) :
    (ofLogged first >>= fun value => ofLogged (next value)) = ofLogged (first >>= next) := by
  funext source
  obtain ⟨outcome, log⟩ := first
  cases outcome with
  | error error => rfl
  | ok value => rfl

theorem ReadsNothing.bind {first : Reading α} {next : α → Reading β} (hFirst : first.ReadsNothing)
    (hNext : ∀ value, (next value).ReadsNothing) : (first >>= next).ReadsNothing := by
  obtain ⟨logged, rfl⟩ := hFirst
  obtain ⟨nextLogged, hEq⟩ := Classical.skolem.mp hNext
  obtain rfl : next = fun value => ofLogged (nextLogged value) := funext hEq
  exact ⟨_, ofLogged_bind logged nextLogged⟩

/-- What asks for nothing is never short of anything. -/
theorem ReadsNothing.runsShortOn {reading : Reading α} (h : reading.ReadsNothing) :
    reading.RunsShortOn fun _ => False := by
  obtain ⟨logged, rfl⟩ := h
  constructor
  case toUniform => exact uniform_ofLogged logged
  case runsShort => exact fun hShort => hShort.elim
  case isDone => exact fun _ => ⟨logged, _, fun _ _ => rfl⟩

theorem RunsShortOn.of_iff {reading : Reading α} {short other : List UInt8 → Prop}
    (hReading : reading.RunsShortOn short) (h : ∀ octets, short octets ↔ other octets) :
    reading.RunsShortOn other := by
  have hShort : short = other := funext fun octets => propext (h octets)
  rwa [hShort] at hReading

theorem RunsShortOn.outcome_eq {reading : Reading α} {short : List UInt8 → Prop}
    (hReading : reading.RunsShortOn short) {source : Source} (hShort : short source.octets) :
    (reading.run source).1.outcome = .error source.ending.shortage :=
  (hReading.runsShort hShort source.ending).1

/-- The octets are too few for the first reading, or what it leaves is too little for the second. -/
theorem RunsShortOn.bind {first : Reading α} {next : α → Reading β} {short : List UInt8 → Prop}
    (hFirst : first.RunsShortOn short) (shortNext : α → List UInt8 → Prop)
    (hNext : ∀ value, (next value).RunsShortOn (shortNext value)) :
    (first >>= next).RunsShortOn fun octets => short octets ∨
      ∃ value, (first.run (.ofOctets octets)).1.outcome = .ok value ∧
        shortNext value (first.run (.ofOctets octets)).2.octets := by
  constructor
  case toUniform => exact hFirst.toUniform.bind fun value => (hNext value).toUniform
  case runsShort =>
    intro deliveries h
    by_cases hShort : short (deliveries.flatMap Delivery.octets)
    · exact (hFirst.runsShort hShort).bind next
    · obtain ⟨logged, kept, hDone⟩ := hFirst.isDone hShort
      obtain ⟨hLogged, hKept⟩ := hFirst.run_ofOctets hDone
      obtain ⟨value, hOutcome, hShortNext⟩ := h.resolve_left hShort
      rw [hLogged] at hOutcome
      rw [hKept] at hShortNext
      exact hDone.bind_runsShort hOutcome ((hNext value).runsShort hShortNext)
  case isDone =>
    intro deliveries h
    obtain ⟨logged, kept, hDone⟩ := hFirst.isDone fun hShort => h (.inl hShort)
    obtain ⟨hLogged, hKept⟩ := hFirst.run_ofOctets hDone
    cases hOutcome : logged.outcome with
    | error error => exact ⟨_, _, hDone.bind_of_error hOutcome next⟩
    | ok value =>
        have hEnough : ¬ shortNext value (kept.flatMap Delivery.octets) := by
          intro hShortNext
          rw [← hKept] at hShortNext
          exact h (.inr ⟨value, by rw [hLogged, hOutcome], hShortNext⟩)
        obtain ⟨result, rest, hNextDone⟩ := (hNext value).isDone hEnough
        exact ⟨_, _, hDone.bind_of_ok hOutcome hNextDone⟩

/-- What follows asks for nothing more. -/
theorem RunsShortOn.last {first : Reading α} {next : α → Reading β} {short : List UInt8 → Prop}
    (hFirst : first.RunsShortOn short) (hNext : ∀ value, (next value).ReadsNothing) :
    (first >>= next).RunsShortOn short := by
  apply (hFirst.bind (fun _ _ => False) fun value => (hNext value).runsShortOn).of_iff
  intro octets
  simp

end Reading

namespace Packet

theorem uniform_readOctets (n : Nat) : (readOctets n).Uniform where
  logged_eq := by
    intro first second hSame
    have hOctets := hSame.octets_eq
    by_cases hEnough : n ≤ second.octets.length
    · rw [run_readOctets_of_le hEnough, run_readOctets_of_le (hOctets ▸ hEnough)]
      simp only [hOctets]
    · have hShort : second.octets.length < n := Nat.lt_of_not_le hEnough
      rw [run_readOctets_of_lt hShort, run_readOctets_of_lt (hOctets ▸ hShort), hSame.ending_eq]
  taken_eq := by
    intro first second hSame
    refine ⟨first.octets.take n, ?_, ?_⟩
    · change _ = _ ++ (first.readExact n).2.octets
      rw [Source.octets_readExact_snd, List.take_append_drop]
    · change _ = _ ++ (second.readExact n).2.octets
      rw [Source.octets_readExact_snd, hSame.octets_eq, List.take_append_drop]
  ending_eq _ := rfl

theorem runsShortOn_readOctets (n : Nat) :
    (readOctets n).RunsShortOn fun octets => octets.length < n where
  toUniform := uniform_readOctets n
  runsShort := by
    intro deliveries hShort ending
    have hRun : (readOctets n).run ⟨deliveries, ending⟩ =
        (.ofExcept (.error ending.shortage), (Source.readExact n ⟨deliveries, ending⟩).2) :=
      run_readOctets_of_lt hShort
    rw [hRun]
    refine ⟨rfl, ?_⟩
    simp only [Source.readExact, Source.gather_snd_of_lt hShort]
  isDone := by
    intro deliveries h
    have hEnough := Nat.le_of_not_lt h
    refine ⟨.ofExcept (.ok ⟨(deliveries.flatMap Delivery.octets).take n,
      List.length_take_of_le hEnough⟩), (Source.gather n deliveries).2, ?_⟩
    intro more ending
    have hOctets : (Source.mk (deliveries ++ more) ending).octets =
        deliveries.flatMap Delivery.octets ++ more.flatMap Delivery.octets := List.flatMap_append
    have hMore : n ≤ (Source.mk (deliveries ++ more) ending).octets.length := by
      rw [hOctets, List.length_append]
      omega
    rw [run_readOctets_of_le hMore]
    simp only [hOctets, List.take_append_of_le_length hEnough, Source.readExact,
      Source.gather_append hEnough]

/-- The octets end inside of the header of a packet, or inside of its body if the header is read. -/
def EndsInside : List UInt8 → Prop
  | first :: length :: body => first &&& 0xC0 = 0xC0 ∧ body.length < length.toNat
  | _ => True

theorem run_readHeader {source : Source} {first length : UInt8} {rest : List UInt8}
    (hOctets : source.octets = first :: length :: rest) :
    (readHeader.run source).1.outcome = PacketHeader.ofOctets first length ∧
      (readHeader.run source).2.octets = rest := by
  have hRead : (readOctets 2).Consumes [first, length] ⟨[first, length], rfl⟩ :=
    consumes_readOctets ⟨[first, length], rfl⟩
  obtain ⟨hOutcome, hLeft, -⟩ := hRead source rest hOctets
  rw [readHeader, Reading.run_bind_of_ok hOutcome]
  exact ⟨rfl, hLeft⟩

theorem runsShortOn_readHeader : readHeader.RunsShortOn fun octets => octets.length < 2 := by
  apply (runsShortOn_readOctets 2).last
  intro octets
  match octets with
  | ⟨[first, length], _⟩ => exact Reading.readsNothing_ofExcept _

/-- Reading a packet needs the packet and no more. -/
theorem runsShortOn_read : Packet.read.RunsShortOn EndsInside := by
  apply (runsShortOn_readHeader.bind (fun header octets => octets.length < header.length.toNat)
    fun header => ?_).of_iff
  · intro octets
    match octets with
    | [] => simp [EndsInside]
    | [first] => simp [EndsInside]
    | first :: length :: rest =>
        obtain ⟨hOutcome, hLeft⟩ := run_readHeader (Source.octets_ofOctets (first :: length :: rest))
        rw [hOutcome, hLeft, EndsInside, PacketHeader.ofOctets]
        by_cases hFormat : first &&& 0xC0 = 0xC0
        · simp [hFormat]
        · simp [hFormat]
  · apply (runsShortOn_readOctets _).last
    intro body
    exact (Reading.readsNothing_ofLogged _).bind fun _ => Reading.readsNothing_pure _

end Packet

namespace Reading

variable {α β : Type}

/-- The reading takes one packet, and whatever it makes of it comes behind that. -/
def TakesPacket (reading : Reading α) : Prop :=
  ∃ load : Packet → Logged α, reading = Packet.read >>= fun packet => ofLogged (load packet)

theorem TakesPacket.bind {first : Reading α} {next : α → Reading β} (hFirst : first.TakesPacket)
    (hNext : ∀ value, (next value).ReadsNothing) : (first >>= next).TakesPacket := by
  obtain ⟨load, rfl⟩ := hFirst
  obtain ⟨nextLogged, hEq⟩ := Classical.skolem.mp hNext
  obtain rfl : next = fun value => ofLogged (nextLogged value) := funext hEq
  refine ⟨fun packet => load packet >>= nextLogged, ?_⟩
  simp only [bind_assoc, ofLogged_bind]

/-- Taking a packet needs the packet and no more. -/
theorem TakesPacket.runsShortOn {reading : Reading α} (h : reading.TakesPacket) :
    reading.RunsShortOn Packet.EndsInside := by
  obtain ⟨load, rfl⟩ := h
  exact Packet.runsShortOn_read.last fun packet => readsNothing_ofLogged (load packet)

/-- What is left does not depend on what is made of the packet. -/
theorem TakesPacket.run_snd {reading : Reading α} (h : reading.TakesPacket) (source : Source) :
    (reading.run source).2 = (Packet.read.run source).2 := by
  obtain ⟨load, rfl⟩ := h
  cases hOutcome : (Packet.read.run source).1.outcome with
  | error error => rw [run_bind_of_error hOutcome]
  | ok packet =>
      rw [run_bind_of_ok hOutcome]
      rfl

end Reading

namespace Packet

theorem takesPacket_read : Packet.read.TakesPacket :=
  ⟨pure, (bind_pure Packet.read).symm⟩

theorem takesPacket_readTagged (expected : Tag) : (readTagged expected).TakesPacket := by
  apply takesPacket_read.bind
  intro packet
  exact (Reading.readsNothing_ensure _ _).bind fun _ => Reading.readsNothing_pure _

theorem runsShortOn_readTagged (expected : Tag) : (readTagged expected).RunsShortOn EndsInside :=
  (takesPacket_readTagged expected).runsShortOn

end Packet

end PhraseKey
