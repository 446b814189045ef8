import ReviewChannel.Message

/-!
Which octets are read as a plain text.

A text of ASCII characters other than NUL is read from its own octets only
(`Utf8.decodeChars_eq_iff`): a character of several octets lies beyond ASCII, and an ill-formed part
is shown as a character beyond ASCII. So there is one spelling of the stop directive
(`Message.classify_eq_stopDirective_iff`).
-/

namespace ReviewChannel

namespace Utf8

/-- An ASCII character other than NUL. -/
def IsPlain (c : Char) : Prop :=
  0 < c.toNat ∧ c.toNat < 0x80

theorem not_isPlain_replacement : ¬ IsPlain '\uFFFD' := by
  simp [IsPlain]

theorem toNat_ofNat {n : Nat} (valid : n.isValidChar) : (Char.ofNat n).toNat = n := by
  rw [Char.ofNat, dif_pos valid]
  rfl

/-- A code point beyond ASCII is no plain character, and neither is what stands for a number that is
no code point. -/
theorem not_isPlain_ofNat {n : Nat} (beyond : 0x80 ≤ n) : ¬ IsPlain (Char.ofNat n) := by
  intro plain
  by_cases valid : n.isValidChar
  · have ascii := plain.2
    rw [toNat_ofNat valid] at ascii
    omega
  · have nul : Char.ofNat n = '\x00' := by
      rw [Char.ofNat, dif_neg valid]
      rfl
    rw [nul] at plain
    exact absurd plain.1 (by decide)

namespace Pending

/-- However the unfinished character goes on, it lies beyond ASCII. -/
def IsWide (p : Pending) : Prop :=
  ∀ b, p.continues b = true → 2 ≤ p.extend b ∧ (p.after = 0 → 0x80 ≤ p.extend b)

theorem IsWide.extended {bits : Nat} (wide : 2 ≤ bits) (after : Nat) :
    IsWide ⟨bits, 0x80, 0xBF, after⟩ := by
  intro b _
  simp only [extend]
  omega

theorem continues_iff {p : Pending} {b : UInt8} :
    p.continues b = true ↔ p.low.toNat ≤ b.toNat ∧ b.toNat ≤ p.high.toNat := by
  simp [continues, UInt8.le_iff_toNat_le]

end Pending

theorem isWide_of_lead {b : UInt8} {p : Pending} (h : lead b = .first p) : p.IsWide := by
  intro next continued
  rw [Pending.continues_iff] at continued
  unfold lead at h
  dsimp only at h
  repeat' split at h
  all_goals first
    | exact Lead.noConfusion h
    | obtain rfl := Lead.first.inj h
      simp only [Pending.extend, UInt8.reduceToNat] at continued ⊢
      omega

theorem encodeChars_cons (c : Char) (text : List Char) :
    encodeChars (c :: text) = String.utf8EncodeChar c ++ encodeChars text :=
  rfl

/-- An octet that is a character on its own is all that is written for it. -/
theorem encodeChar_of_lead {b : UInt8} {c : Char} (h : lead b = .whole c) :
    String.utf8EncodeChar c = [b] := by
  unfold lead at h
  dsimp only at h
  split at h
  · rename_i ascii
    obtain rfl := Lead.whole.inj h
    have value : (Char.ofNat b.toNat).val.toNat = b.toNat := toNat_ofNat (Or.inl (by omega))
    rw [String.utf8EncodeChar, value, if_pos (by omega), UInt8.ofNat_toNat]
  · repeat' split at h
    all_goals exact Lead.noConfusion h

/-- The characters shown for the octets after an unfinished start. -/
def shownFrom (unfinished : Option Pending) (octets : List UInt8) : List Char :=
  (partsFrom unfinished octets).map (·.getD '\uFFFD')

theorem shownFrom_cons (unfinished : Option Pending) (b : UInt8) (rest : List UInt8) :
    shownFrom unfinished (b :: rest) =
      (step unfinished b).1.map (·.getD '\uFFFD') ++ shownFrom (step unfinished b).2 rest := by
  cases unfinished with
  | none => rw [shownFrom, partsFrom, List.map_append, shownFrom]
  | some p => rw [shownFrom, partsFrom, List.map_append, shownFrom]

/-- Plain characters are shown for their own octets only. The induction is on the octets; whatever
is unfinished on the way can only become a wide character. -/
theorem encodeChars_shownFrom {octets : List UInt8} {unfinished : Option Pending}
    (plain : ∀ c ∈ shownFrom unfinished octets, IsPlain c)
    (wide : ∀ p ∈ unfinished, p.IsWide) :
    unfinished = none ∧ encodeChars (shownFrom unfinished octets) = octets := by
  have settled : ∀ p ∈ (none : Option Pending), p.IsWide := by simp
  induction octets generalizing unfinished with
  | nil =>
      cases unfinished with
      | none => exact ⟨rfl, rfl⟩
      | some p => exact absurd (plain _ (List.mem_singleton_self _)) not_isPlain_replacement
  | cons b rest ih =>
      rw [shownFrom_cons] at plain ⊢
      have later := fun c mem => plain c (List.mem_append_right _ mem)
      cases unfinished with
      | none =>
          cases role : lead b with
          | whole c =>
              simp only [step, begin, role] at plain later ⊢
              refine ⟨trivial, ?_⟩
              rw [List.map_cons, List.map_nil, List.singleton_append, encodeChars_cons,
                (ih later settled).2]
              exact congrArg (· ++ rest) (encodeChar_of_lead role)
          | first p =>
              simp only [step, begin, role] at later
              have unsettled := (ih later fun q eq => by cases eq; exact isWide_of_lead role).1
              cases unsettled
          | illFormed =>
              simp only [step, begin, role] at plain
              exact absurd (plain _ (List.mem_cons_self ..)) not_isPlain_replacement
      | some p =>
          cases continued : p.continues b with
          | true =>
              obtain ⟨two, beyond⟩ := wide p rfl b continued
              cases after : p.after with
              | zero =>
                  simp only [step, continued, if_true, after] at plain
                  exact absurd (plain _ (List.mem_cons_self ..)) (not_isPlain_ofNat (beyond after))
              | succ n =>
                  simp only [step, continued, if_true, after] at later
                  have unsettled :=
                    (ih later fun q eq => by cases eq; exact Pending.IsWide.extended two n).1
                  cases unsettled
          | false =>
              simp only [step, continued] at plain
              exact absurd (plain _ (List.mem_cons_self ..)) not_isPlain_replacement

/-- Octets that are read as plain characters are what is written for them. -/
theorem encodeChars_decodeChars {octets : List UInt8}
    (plain : ∀ c ∈ decodeChars octets, IsPlain c) : encodeChars (decodeChars octets) = octets :=
  (@encodeChars_shownFrom octets none plain (by simp)).2

end Utf8

namespace Message

def stopOctets : List UInt8 :=
  Utf8.encode stopText

/-- A text is the stop directive if it says so. -/
theorem ofText_eq_stopDirective_iff {text : String} :
    ofText text = stopDirective ↔ text = stopText := by
  constructor
  · intro h
    unfold ofText at h
    split at h
    · split at h
      · assumption
      · cases h
    · cases h
  · rintro rfl
    decide

/-- The stop directive has one spelling. -/
theorem classify_eq_stopDirective_iff {octets : List UInt8} :
    classify octets = stopDirective ↔ octets = stopOctets := by
  rw [classify, ofText_eq_stopDirective_iff]
  constructor
  · intro shown
    have chars : Utf8.decodeChars octets = stopText.toList := by
      rw [← shown, Utf8.decodeLossy, String.toList_ofList]
    have plain : ∀ c ∈ stopText.toList, Utf8.IsPlain c := by simp [stopText, Utf8.IsPlain]
    rw [stopOctets, Utf8.encode, ← chars]
    exact (Utf8.encodeChars_decodeChars (chars ▸ plain)).symm
  · rintro rfl
    decide

end Message

end ReviewChannel
