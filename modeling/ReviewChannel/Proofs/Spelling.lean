import ReviewChannel.Proofs.Decoding

/-!
What is written for a text is read as that text.

A character is written as a first octet, which settles how many follow and what the next one may be,
and octets that continue it. `partsFrom_encodeChar` reads one character, and
`decodeLossy_encode` is the round trip of a whole text.
-/

namespace ReviewChannel

namespace Utf8

theorem partsFrom_cons (unfinished : Option Pending) (b : UInt8) (rest : List UInt8) :
    partsFrom unfinished (b :: rest) =
      (step unfinished b).1 ++ partsFrom (step unfinished b).2 rest := by
  cases unfinished with
  | none => rw [partsFrom]
  | some p => rw [partsFrom]

/-- An octet ends one part at most, and one more if it breaks off what was unfinished. -/
theorem length_step_le (unfinished : Option Pending) (b : UInt8) :
    (step unfinished b).1.length + (step unfinished b).2.toList.length ≤
      1 + unfinished.toList.length := by
  have begins : (begin b).1.length + (begin b).2.toList.length ≤ 1 := by
    unfold begin
    cases lead b <;> simp
  cases unfinished with
  | none => simpa [step] using begins
  | some p =>
      simp only [step, Option.toList_some, List.length_singleton]
      split
      · split <;> simp
      · simp only [List.length_cons]
        omega

/-- Octets are read as at most as many parts. -/
theorem length_partsFrom_le (unfinished : Option Pending) (octets : List UInt8) :
    (partsFrom unfinished octets).length ≤ octets.length + unfinished.toList.length := by
  induction octets generalizing unfinished with
  | nil => cases unfinished <;> simp [partsFrom]
  | cons b rest ih =>
      have first := length_step_le unfinished b
      have later := ih (step unfinished b).2
      rw [partsFrom_cons, List.length_append, List.length_cons]
      omega

/-- A text has no more characters than the octets that it was read from. -/
theorem length_decodeLossy_le (octets : List UInt8) :
    (decodeLossy octets).length ≤ octets.length := by
  have parts := length_partsFrom_le none octets
  rwa [decodeLossy, String.length_ofList, decodeChars, List.length_map, Utf8.parts]

/-! ### Octets that continue a character -/

/-- The octet that carries six bits of a character. -/
def tail (bits : Nat) : UInt8 :=
  UInt8.ofNat (bits % 64 + 0x80)

theorem toNat_octet {n : Nat} (small : n < 0x100) : (UInt8.ofNat n).toNat = n :=
  UInt8.toNat_ofNat_of_lt small

theorem toNat_tail (bits : Nat) : (tail bits).toNat = bits % 64 + 0x80 :=
  toNat_octet (by omega)

theorem extend_tail (p : Pending) (bits : Nat) :
    p.extend (tail bits) = p.bits * 64 + bits % 64 := by
  rw [Pending.extend, toNat_tail]
  omega

/-- An octet that is not the last one of its character adds its bits. -/
theorem partsFrom_tail {p : Pending} {bits after : Nat} (continued : p.continues (tail bits) = true)
    (more : p.after = after + 1) (rest : List UInt8) :
    partsFrom (some p) (tail bits :: rest) =
      partsFrom (some ⟨p.bits * 64 + bits % 64, 0x80, 0xBF, after⟩) rest := by
  rw [partsFrom_cons]
  simp only [step, continued, if_true, more, extend_tail]
  exact List.nil_append _

/-- The last octet of a character completes it. -/
theorem partsFrom_last {p : Pending} {bits : Nat} (continued : p.continues (tail bits) = true)
    (last : p.after = 0) (rest : List UInt8) :
    partsFrom (some p) (tail bits :: rest) =
      some (Char.ofNat (p.bits * 64 + bits % 64)) :: partsFrom none rest := by
  rw [partsFrom_cons]
  simp only [step, continued, if_true, last, extend_tail]
  exact List.singleton_append

theorem continues_tail {p : Pending} {bits : Nat} :
    p.continues (tail bits) = true ↔
      p.low.toNat ≤ bits % 64 + 0x80 ∧ bits % 64 + 0x80 ≤ p.high.toNat := by
  rw [Pending.continues_iff, toNat_tail]

/-- After its second octet a character goes on with any six bits. -/
theorem continues_tail_of_later (sofar after bits : Nat) :
    (⟨sofar, 0x80, 0xBF, after⟩ : Pending).continues (tail bits) = true := by
  rw [continues_tail]
  simp only [UInt8.reduceToNat]
  omega

/-! ### First octets -/

/-- What a first octet leaves unfinished: these bits, so many octets after the next one, and a next
octet that may carry these bits. -/
structure Leads (b : UInt8) (p : Pending) (sofar after next : Nat) : Prop where
  lead_eq : lead b = .first p
  bits_eq : p.bits = sofar
  after_eq : p.after = after
  goes_on : p.continues (tail next) = true

theorem Leads.partsFrom {b : UInt8} {p : Pending} {sofar after next : Nat}
    (h : Leads b p sofar after next) (rest : List UInt8) :
    partsFrom none (b :: rest) = partsFrom (some p) rest := by
  rw [partsFrom_cons]
  simp only [step, begin, h.lead_eq]
  exact List.nil_append _

theorem leads_two {v : Nat} (low : 0x80 ≤ v) (high : v < 0x800) :
    ∃ p, Leads (UInt8.ofNat (v / 64 % 32 + 0xC0)) p (v / 64) 0 v := by
  have first := toNat_octet (n := v / 64 % 32 + 0xC0) (by omega)
  refine ⟨⟨v / 64, 0x80, 0xBF, 0⟩, ?_, rfl, rfl, continues_tail_of_later _ _ _⟩
  simp only [lead, first]
  rw [if_neg (by omega), if_neg (by omega), if_pos (by omega),
    show v / 64 % 32 + 0xC0 - 0xC0 = v / 64 by omega]

/-- The leading octet of a code point in three octets. -/
theorem leads_three {v : Nat} (low : 0x800 ≤ v) (high : v < 0x10000)
    (noSurrogate : v < 0xD800 ∨ 0xDFFF < v) :
    ∃ p, Leads (UInt8.ofNat (v / 4096 % 16 + 0xE0)) p (v / 4096) 1 (v / 64) := by
  have first := toNat_octet (n := v / 4096 % 16 + 0xE0) (by omega)
  by_cases zero : v / 4096 = 0
  · refine ⟨⟨0, 0xA0, 0xBF, 1⟩, ?_, zero.symm, rfl, ?_⟩
    · simp only [lead, first]
      rw [if_neg (by omega), if_neg (by omega), if_neg (by omega), if_pos (by omega)]
    · rw [continues_tail]
      simp only [UInt8.reduceToNat]
      omega
  · by_cases thirteen : v / 4096 = 0xD
    · refine ⟨⟨0xD, 0x80, 0x9F, 1⟩, ?_, thirteen.symm, rfl, ?_⟩
      · simp only [lead, first]
        rw [if_neg (by omega), if_neg (by omega), if_neg (by omega), if_neg (by omega),
          if_pos (by omega)]
      · rw [continues_tail]
        simp only [UInt8.reduceToNat]
        omega
    · refine ⟨⟨v / 4096, 0x80, 0xBF, 1⟩, ?_, rfl, rfl, continues_tail_of_later _ _ _⟩
      simp only [lead, first]
      rw [if_neg (by omega), if_neg (by omega), if_neg (by omega), if_neg (by omega),
        if_neg (by omega), if_pos (by omega),
        show v / 4096 % 16 + 0xE0 - 0xE0 = v / 4096 by omega]

/-- The leading octet of a code point in four octets. -/
theorem leads_four {v : Nat} (low : 0x10000 ≤ v) (high : v < 0x110000) :
    ∃ p, Leads (UInt8.ofNat (v / 262144 % 8 + 0xF0)) p (v / 262144) 2 (v / 4096) := by
  have first := toNat_octet (n := v / 262144 % 8 + 0xF0) (by omega)
  by_cases zero : v / 262144 = 0
  · refine ⟨⟨0, 0x90, 0xBF, 2⟩, ?_, zero.symm, rfl, ?_⟩
    · simp only [lead, first]
      rw [if_neg (by omega), if_neg (by omega), if_neg (by omega), if_neg (by omega),
        if_neg (by omega), if_neg (by omega), if_pos (by omega)]
    · rw [continues_tail]
      simp only [UInt8.reduceToNat]
      omega
  · by_cases four : v / 262144 = 4
    · refine ⟨⟨4, 0x80, 0x8F, 2⟩, ?_, four.symm, rfl, ?_⟩
      · simp only [lead, first]
        rw [if_neg (by omega), if_neg (by omega), if_neg (by omega), if_neg (by omega),
          if_neg (by omega), if_neg (by omega), if_neg (by omega), if_neg (by omega),
          if_pos (by omega)]
      · rw [continues_tail]
        simp only [UInt8.reduceToNat]
        omega
    · refine ⟨⟨v / 262144, 0x80, 0xBF, 2⟩, ?_, rfl, rfl, continues_tail_of_later _ _ _⟩
      simp only [lead, first]
      rw [if_neg (by omega), if_neg (by omega), if_neg (by omega), if_neg (by omega),
        if_neg (by omega), if_neg (by omega), if_neg (by omega), if_pos (by omega),
        show v / 262144 % 8 + 0xF0 - 0xF0 = v / 262144 by omega]

/-! ### Whole characters -/

/-- A character is read from what is written for it, whatever follows. -/
theorem partsFrom_encodeChar (c : Char) (rest : List UInt8) :
    partsFrom none (String.utf8EncodeChar c ++ rest) = some c :: partsFrom none rest := by
  have valid : c.val.toNat < 0xD800 ∨ 0xDFFF < c.val.toNat ∧ c.val.toNat < 0x110000 := c.valid
  have value : Char.ofNat c.val.toNat = c := c.ofNat_toNat
  unfold String.utf8EncodeChar
  generalize c.val.toNat = v at valid value
  simp only
  split
  · have first := toNat_octet (n := v) (by omega)
    rw [List.singleton_append, partsFrom_cons]
    have whole : lead (UInt8.ofNat v) = .whole c := by
      simp only [lead, first]
      rw [if_pos (by omega), value]
    simp only [step, begin, whole]
    exact List.singleton_append
  · split
    · obtain ⟨p, leads⟩ := leads_two (v := v) (by omega) (by omega)
      have last := partsFrom_last leads.goes_on leads.after_eq rest
      rw [leads.bits_eq, show v / 64 * 64 + v % 64 = v by omega, value] at last
      rw [List.cons_append, leads.partsFrom]
      exact last
    · split
      · obtain ⟨p, leads⟩ := leads_three (v := v) (by omega) (by omega) (by omega)
        have second := partsFrom_tail leads.goes_on leads.after_eq (tail v :: rest)
        have last := partsFrom_last
          (continues_tail_of_later (p.bits * 64 + v / 64 % 64) 0 v) rfl rest
        simp only at last
        rw [leads.bits_eq] at second last
        rw [show (v / 4096 * 64 + v / 64 % 64) * 64 + v % 64 = v by omega, value] at last
        rw [List.cons_append, leads.partsFrom]
        exact second.trans last
      · obtain ⟨p, leads⟩ := leads_four (v := v) (by omega) (by omega)
        have second := partsFrom_tail leads.goes_on leads.after_eq
          (tail (v / 64) :: tail v :: rest)
        have third := partsFrom_tail
          (continues_tail_of_later (p.bits * 64 + v / 4096 % 64) 1 (v / 64)) rfl (tail v :: rest)
        have last := partsFrom_last (continues_tail_of_later
          ((p.bits * 64 + v / 4096 % 64) * 64 + v / 64 % 64) 0 v) rfl rest
        simp only at third last
        rw [leads.bits_eq] at second third last
        rw [show ((v / 262144 * 64 + v / 4096 % 64) * 64 + v / 64 % 64) * 64 + v % 64 = v by omega,
          value] at last
        rw [List.cons_append, leads.partsFrom]
        exact second.trans (third.trans last)

/-- What is written for characters is cut into these characters, and nothing is ill-formed. -/
theorem parts_encodeChars (text : List Char) : parts (encodeChars text) = text.map some := by
  induction text with
  | nil => rfl
  | cons c text ih =>
      rw [encodeChars_cons, parts, partsFrom_encodeChar, List.map_cons]
      exact congrArg _ ih

theorem decodeChars_encodeChars (text : List Char) : decodeChars (encodeChars text) = text := by
  rw [decodeChars, parts_encodeChars, List.map_map]
  exact List.map_id _

/-- What is written for a text is read as that text. -/
theorem decodeLossy_encode (text : String) : decodeLossy (encode text) = text := by
  rw [decodeLossy, encode, decodeChars_encodeChars, String.ofList_toList]

/-- What is written for a text is well-formed, and read as that text. -/
theorem decode?_encode (text : String) : decode? (encode text) = some text := by
  have all (chars : List Char) : (chars.map some).mapM id = some chars := by
    induction chars with
    | nil => rfl
    | cons c chars ih => simp [List.mapM_cons, ih]
  rw [decode?, encode, parts_encodeChars, all, Option.map_some, String.ofList_toList]

theorem encode_ne_nil {text : String} (nonempty : text ≠ "") : encode text ≠ [] := by
  intro silent
  have empty := decodeLossy_encode text
  rw [silent] at empty
  exact nonempty empty.symm

end Utf8

namespace Message

/-- An identifier that the grader accepts is told as it was sent, if it is read on its own. -/
theorem classify_encode {id : String} (accepted : isReserved id = false) :
    classify (Utf8.encode id) = .identifier id := by
  rw [classify, Utf8.decodeLossy_encode, ofText, if_neg (by simp [accepted])]

/-- No identifier that the grader accepts is spelled as the stop directive. -/
theorem stopOctets_ne_encode {id : String} (accepted : isReserved id = false) :
    stopOctets ≠ Utf8.encode id := by
  intro same
  have stop := classify_eq_stopDirective_iff.mpr same.symm
  rw [classify_encode accepted] at stop
  cases stop

end Message

end ReviewChannel
