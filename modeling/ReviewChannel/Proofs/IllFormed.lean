import ReviewChannel.Proofs.Spelling

/-!
What octets are read as, whatever they are.

* `Utf8.ReadAs` — the rule, without a machine. Octets that begin with what is written for a
  character are read as that character and the rest. Others begin with an ill-formed part
  (`IllFormedPart`): the longest start of a character that stands there, or one octet if no
  character starts with it. The whole part is read as one U+FFFD.
* `Utf8.Pending.Holds` — what is unfinished in the reader stands for the octets since its last part:
  the octets that continue it make them a character, and no others do.
* `Utf8.readAs_iff` — the reader follows the rule, and the rule has no other reading.
* `Utf8.prefix_decodeChars_iff` — a text without U+FFFD is read from its own octets only, however
  ill-formed the octets after it are.
* `Utf8.decode?_eq_some_iff` — who reads well-formed octets only reads what is written for a text.
-/

namespace ReviewChannel.Utf8

/-! ### The rule -/

/-- Octets with which some character begins. -/
def Begins (octets : List UInt8) : Prop :=
  ∃ c, octets <+: String.utf8EncodeChar c

/-- The ill-formed part that octets begin with: they begin with no character, and it is the longest
start of one, or one octet if that starts none. -/
structure IllFormedPart (part rest : List UInt8) : Prop where
  nonempty : part ≠ []
  no_char : ∀ c, ¬ String.utf8EncodeChar c <+: part ++ rest
  starts : Begins part ∨ part.length = 1
  longest : ∀ start, start <+: part ++ rest → Begins start → start.length ≤ part.length

/-- Octets are read as a text: each character from what is written for it, and each ill-formed part
as one U+FFFD, in order. -/
inductive ReadAs : List UInt8 → List Char → Prop where
  | nil : ReadAs [] []
  | char (c : Char) {rest : List UInt8} {text : List Char} (later : ReadAs rest text) :
      ReadAs (String.utf8EncodeChar c ++ rest) (c :: text)
  | illFormed {part rest : List UInt8} {text : List Char} (broken : IllFormedPart part rest)
      (later : ReadAs rest text) : ReadAs (part ++ rest) ('\uFFFD' :: text)

/-- No two characters begin the same octets. -/
theorem encodeChar_append_inj {c c' : Char} {rest rest' : List UInt8}
    (same : String.utf8EncodeChar c ++ rest = String.utf8EncodeChar c' ++ rest') :
    c = c' ∧ rest = rest' := by
  have read := congrArg (partsFrom none) same
  rw [partsFrom_encodeChar, partsFrom_encodeChar] at read
  obtain rfl : c = c' := Option.some.inj (List.cons.inj read).1
  exact ⟨rfl, List.append_cancel_left same⟩

/-- Octets begin with one ill-formed part at most. -/
theorem IllFormedPart.unique {part part' rest rest' : List UInt8} (h : IllFormedPart part rest)
    (h' : IllFormedPart part' rest') (same : part ++ rest = part' ++ rest') :
    part = part' ∧ rest = rest' := by
  have shorter {p q r s : List UInt8} (hp : IllFormedPart p r) (hq : IllFormedPart q s)
      (eq : p ++ r = q ++ s) : p.length ≤ q.length := by
    rcases hp.starts with begins | single
    · exact hq.longest p (eq ▸ List.prefix_append p r) begins
    · rw [single]
      exact List.length_pos_iff.mpr hq.nonempty
  exact List.append_inj same (Nat.le_antisymm (shorter h h' same) (shorter h' h same.symm))

/-- The same octets have one reading. -/
theorem ReadAs.unique_of_eq {octets octets' : List UInt8} {text text' : List Char}
    (h : ReadAs octets text) (h' : ReadAs octets' text') (same : octets = octets') :
    text = text' := by
  induction h generalizing octets' text' with
  | nil =>
      cases h' with
      | nil => rfl
      | char c later =>
          exact absurd (List.append_eq_nil_iff.mp same.symm).1 String.utf8EncodeChar_ne_nil
      | illFormed broken later =>
          exact absurd (List.append_eq_nil_iff.mp same.symm).1 broken.nonempty
  | char c _ ih =>
      cases h' with
      | nil => exact absurd (List.append_eq_nil_iff.mp same).1 String.utf8EncodeChar_ne_nil
      | char c' later =>
          obtain ⟨rfl, tails⟩ := encodeChar_append_inj same
          rw [ih later tails]
      | illFormed broken later =>
          exact absurd (same ▸ List.prefix_append _ _) (broken.no_char c)
  | illFormed broken _ ih =>
      cases h' with
      | nil => exact absurd (List.append_eq_nil_iff.mp same).1 broken.nonempty
      | char c later => exact absurd (same ▸ List.prefix_append _ _) (broken.no_char c)
      | illFormed broken' later =>
          obtain ⟨-, tails⟩ := broken.unique broken' same
          rw [ih later tails]

/-! ### What is unfinished stands for -/

theorem encodeChar_two {b second : UInt8} {v : Nat} (beyond : 0x80 ≤ v) (high : v < 0x800)
    (first_eq : b.toNat = v / 64 + 0xC0) (second_eq : second.toNat = v % 64 + 0x80) :
    String.utf8EncodeChar (Char.ofNat v) = [b, second] := by
  have value : (Char.ofNat v).val.toNat = v := toNat_ofNat (Or.inl (by omega))
  rw [String.utf8EncodeChar, value, if_neg (by omega), if_pos (by omega),
    show v / 64 % 32 + 0xC0 = b.toNat by omega, ← second_eq, UInt8.ofNat_toNat, UInt8.ofNat_toNat]

theorem encodeChar_three {b second third : UInt8} {v : Nat} (beyond : 0x800 ≤ v)
    (high : v < 0x10000) (noSurrogate : v < 0xD800 ∨ 0xDFFF < v)
    (first_eq : b.toNat = v / 4096 + 0xE0) (second_eq : second.toNat = v / 64 % 64 + 0x80)
    (third_eq : third.toNat = v % 64 + 0x80) :
    String.utf8EncodeChar (Char.ofNat v) = [b, second, third] := by
  have value : (Char.ofNat v).val.toNat = v := toNat_ofNat (by unfold Nat.isValidChar; omega)
  rw [String.utf8EncodeChar, value, if_neg (by omega), if_neg (by omega), if_pos (by omega),
    show v / 4096 % 16 + 0xE0 = b.toNat by omega, ← second_eq, ← third_eq, UInt8.ofNat_toNat,
    UInt8.ofNat_toNat, UInt8.ofNat_toNat]

theorem encodeChar_four {b second third fourth : UInt8} {v : Nat} (beyond : 0x10000 ≤ v)
    (high : v < 0x110000) (first_eq : b.toNat = v / 262144 + 0xF0)
    (second_eq : second.toNat = v / 4096 % 64 + 0x80)
    (third_eq : third.toNat = v / 64 % 64 + 0x80) (fourth_eq : fourth.toNat = v % 64 + 0x80) :
    String.utf8EncodeChar (Char.ofNat v) = [b, second, third, fourth] := by
  have value : (Char.ofNat v).val.toNat = v := toNat_ofNat (by unfold Nat.isValidChar; omega)
  rw [String.utf8EncodeChar, value, if_neg (by omega), if_neg (by omega), if_neg (by omega),
    show v / 262144 % 8 + 0xF0 = b.toNat by omega, ← second_eq, ← third_eq, ← fourth_eq,
    UInt8.ofNat_toNat, UInt8.ofNat_toNat, UInt8.ofNat_toNat, UInt8.ofNat_toNat]

/-- Whatever continues what is unfinished makes the octets before it a character. -/
inductive Pending.Spells : Pending → List UInt8 → Prop where
  | last {p : Pending} {part : List UInt8} (done : p.after = 0)
      (spelled : ∀ b, p.continues b = true →
        String.utf8EncodeChar (Char.ofNat (p.extend b)) = part ++ [b]) : Spells p part
  | more {p : Pending} {part : List UInt8} {n : Nat} (left : p.after = n + 1)
      (goes : ∀ b, p.continues b = true → Spells ⟨p.extend b, 0x80, 0xBF, n⟩ (part ++ [b])) :
      Spells p part

namespace Pending

theorem Spells.begins {p : Pending} {part : List UInt8} (h : p.Spells part)
    (opens : p.continues p.low = true) : Begins part := by
  induction h with
  | @last p part _ spelled => exact ⟨_, spelled _ opens ▸ List.prefix_append part _⟩
  | @more p part n _ _ ih =>
      obtain ⟨c, longer⟩ := ih _ opens rfl
      exact ⟨c, (List.prefix_append part _).trans longer⟩

theorem spells_two {b : UInt8} {bits : Nat} (first_eq : b.toNat = bits + 0xC0)
    (two : 2 ≤ bits) (small : bits < 32) : Spells ⟨bits, 0x80, 0xBF, 0⟩ [b] := by
  refine .last rfl fun second continued => ?_
  rw [continues_iff] at continued
  simp only [UInt8.reduceToNat] at continued
  exact encodeChar_two (by simp only [extend]; omega) (by simp only [extend]; omega)
    (by simp only [extend]; omega) (by simp only [extend]; omega)

/-- The bounds on the second octet keep out overlong forms and surrogates. -/
theorem spells_three {b low high : UInt8} {bits : Nat} (first_eq : b.toNat = bits + 0xE0)
    (small : bits < 16) (low_le : 0x80 ≤ low.toNat) (le_high : high.toNat ≤ 0xBF)
    (notOverlong : bits = 0 → 0xA0 ≤ low.toNat) (noSurrogate : bits = 0xD → high.toNat ≤ 0x9F) :
    Spells ⟨bits, low, high, 1⟩ [b] := by
  refine .more rfl fun second continued => .last rfl fun third continued' => ?_
  rw [continues_iff] at continued continued'
  simp only [UInt8.reduceToNat] at continued continued'
  exact encodeChar_three (by simp only [extend]; omega) (by simp only [extend]; omega)
    (by simp only [extend]; omega) (by simp only [extend]; omega) (by simp only [extend]; omega)
    (by simp only [extend]; omega)

/-- The bounds on the second octet keep out overlong forms and what lies beyond the last code
point. -/
theorem spells_four {b low high : UInt8} {bits : Nat} (first_eq : b.toNat = bits + 0xF0)
    (small : bits < 5) (low_le : 0x80 ≤ low.toNat) (le_high : high.toNat ≤ 0xBF)
    (notOverlong : bits = 0 → 0x90 ≤ low.toNat) (notBeyond : bits = 4 → high.toNat ≤ 0x8F) :
    Spells ⟨bits, low, high, 2⟩ [b] := by
  refine .more rfl fun second continued => .more rfl fun third continued' =>
    .last rfl fun fourth continued'' => ?_
  rw [continues_iff] at continued continued' continued''
  simp only [UInt8.reduceToNat] at continued continued' continued''
  exact encodeChar_four (by simp only [extend]; omega) (by simp only [extend]; omega)
    (by simp only [extend]; omega) (by simp only [extend]; omega) (by simp only [extend]; omega)
    (by simp only [extend]; omega)

/-- What is unfinished stands for these octets. -/
structure Holds (p : Pending) (part : List UInt8) : Prop where
  spells : p.Spells part
  opens : p.continues p.low = true
  nonempty : part ≠ []
  reads : ∀ rest, partsFrom none (part ++ rest) = partsFrom (some p) rest

/-- The first octet of a character is held until the next one comes. -/
theorem holds_of_lead {b : UInt8} {p : Pending} (h : lead b = .first p) : p.Holds [b] := by
  have reads (rest : List UInt8) : partsFrom none (b :: rest) = partsFrom (some p) rest := by
    rw [partsFrom_cons]
    simp only [step, begin, h]
    exact List.nil_append _
  suffices spelled : p.Spells [b] ∧ p.continues p.low = true from
    ⟨spelled.1, spelled.2, List.cons_ne_nil b [], reads⟩
  unfold lead at h
  dsimp only at h
  -- One case for each row of leading octets: the bounds of a row are what its character needs.
  repeat' split at h
  all_goals first
    | exact Lead.noConfusion h
    | obtain rfl := Lead.first.inj h
  · exact ⟨spells_two (by omega) (by omega) (by omega), rfl⟩
  · exact ⟨spells_three (by omega) (by decide) (by decide) (by decide) (by decide) (by decide), rfl⟩
  · exact ⟨spells_three (by omega) (by decide) (by decide) (by decide) (by decide) (by decide), rfl⟩
  · exact ⟨spells_three (by omega) (by omega) (by decide) (by decide) (by omega) (by omega), rfl⟩
  · exact ⟨spells_four (by omega) (by decide) (by decide) (by decide) (by decide) (by decide), rfl⟩
  · exact ⟨spells_four (by omega) (by omega) (by decide) (by decide) (by omega) (by omega), rfl⟩
  · exact ⟨spells_four (by omega) (by decide) (by decide) (by decide) (by decide) (by decide), rfl⟩

end Pending

/-- What is held grows with an octet that continues it. -/
theorem Pending.Holds.longer {p : Pending} {part : List UInt8} {b : UInt8} {n : Nat}
    (h : p.Holds part) (continued : p.continues b = true) (left : p.after = n + 1)
    (spells : Spells ⟨p.extend b, 0x80, 0xBF, n⟩ (part ++ [b])) :
    Holds ⟨p.extend b, 0x80, 0xBF, n⟩ (part ++ [b]) := by
  refine ⟨spells, rfl, by simp, fun more => ?_⟩
  rw [List.append_assoc, List.singleton_append, h.reads, partsFrom_cons]
  simp only [step, continued, if_true, left]
  exact List.nil_append _

/-! ### The reader follows the rule -/

/-- What is unfinished ends as an ill-formed part if the next octet does not continue it. -/
theorem partsFrom_of_stops {p : Pending} {rest : List UInt8}
    (stops : ∀ b ∈ rest.head?, p.continues b = false) :
    partsFrom (some p) rest = none :: partsFrom none rest := by
  cases rest with
  | nil => rfl
  | cons b rest =>
      rw [partsFrom_cons, partsFrom_cons]
      simp only [step, stops b rfl]
      rfl

/-- Octets that the reader gives up for every continuation with this next octet are an ill-formed
part: a character that began with them, or with more of them, would have been read. -/
theorem illFormedPart_of_broken {part rest : List UInt8} (nonempty : part ≠ [])
    (starts : Begins part ∨ part.length = 1)
    (broken : ∀ more, more.head? = rest.head? →
      ∃ later, partsFrom none (part ++ more) = none :: later) : IllFormedPart part rest where
  nonempty := nonempty
  starts := starts
  no_char c := by
    rintro ⟨more, eq⟩
    obtain ⟨later, read⟩ := broken rest rfl
    rw [← eq, partsFrom_encodeChar] at read
    cases read
  longest start := by
    rintro ⟨more, eq⟩ ⟨c, others, spelled⟩
    rcases List.append_eq_append_iff.mp eq with ⟨shorter, rfl, -⟩ | ⟨longer, rfl, rest_eq⟩
    · rw [List.length_append]
      exact Nat.le_add_right ..
    · cases longer with
      | nil => exact Nat.le_of_eq (congrArg List.length (List.append_nil part))
      | cons b longer =>
          obtain ⟨later, read⟩ := broken (b :: longer ++ others) (by rw [rest_eq]; rfl)
          rw [← List.append_assoc, spelled, ← List.append_nil (String.utf8EncodeChar c),
            partsFrom_encodeChar] at read
          cases read

theorem Pending.Holds.illFormedPart {p : Pending} {part rest : List UInt8} (h : p.Holds part)
    (stops : ∀ b ∈ rest.head?, p.continues b = false) : IllFormedPart part rest := by
  refine illFormedPart_of_broken h.nonempty (Or.inl (h.spells.begins h.opens)) fun more same => ?_
  rw [h.reads, partsFrom_of_stops (same ▸ stops)]
  exact ⟨_, rfl⟩

theorem illFormedPart_of_lead {b : UInt8} (role : lead b = .illFormed) (rest : List UInt8) :
    IllFormedPart [b] rest := by
  refine illFormedPart_of_broken (List.cons_ne_nil b []) (Or.inr rfl) fun more _ => ?_
  rw [List.singleton_append, partsFrom_cons]
  simp only [step, begin, role]
  exact ⟨_, rfl⟩

/-- What is shown for octets is a reading of them. The induction is on the octets; what is
unfinished on the way stands for octets that have been read before. -/
theorem readAs_shownFrom (octets : List UInt8) :
    ReadAs octets (shownFrom none octets) ∧
      ∀ {p : Pending} {part : List UInt8}, p.Holds part →
        ReadAs (part ++ octets) (shownFrom (some p) octets) := by
  induction octets with
  | nil =>
      refine ⟨.nil, fun {p part} held => ?_⟩
      exact .illFormed (held.illFormedPart (by simp)) .nil
  | cons b rest ih =>
      obtain ⟨fresh, goesOn⟩ := ih
      have begun : ReadAs (b :: rest) (shownFrom none (b :: rest)) := by
        rw [shownFrom_cons]
        cases role : lead b with
        | whole c =>
            have read := ReadAs.char c fresh
            rw [encodeChar_of_lead role] at read
            simp only [step, begin, role]
            exact read
        | first p =>
            simp only [step, begin, role]
            exact goesOn (Pending.holds_of_lead role)
        | illFormed =>
            simp only [step, begin, role]
            exact ReadAs.illFormed (illFormedPart_of_lead role rest) fresh
      refine ⟨begun, fun {p part} held => ?_⟩
      cases continued : p.continues b with
      | false =>
          have stops : ∀ b' ∈ (b :: rest).head?, p.continues b' = false := by
            intro b' first
            cases first
            exact continued
          rw [shownFrom, partsFrom_of_stops stops]
          exact .illFormed (held.illFormedPart stops) begun
      | true =>
          have along (more : List UInt8) : part ++ b :: more = part ++ [b] ++ more := by simp
          rw [shownFrom_cons, along]
          cases held.spells with
          | last done spelled =>
              have read := ReadAs.char (Char.ofNat (p.extend b)) fresh
              rw [spelled b continued] at read
              simp only [step, continued, if_true, done]
              exact read
          | @more _ _ n left goes =>
              simp only [step, continued, if_true, left]
              exact goesOn (held.longer continued left (goes b continued))

/-- The reader follows the rule, and octets have no other reading. -/
theorem readAs_iff {octets : List UInt8} {text : List Char} :
    ReadAs octets text ↔ text = decodeChars octets := by
  have shown : ReadAs octets (decodeChars octets) := (readAs_shownFrom octets).1
  constructor
  · intro read
    exact read.unique_of_eq shown rfl
  · rintro rfl
    exact shown

/-! ### Text without U+FFFD -/

/-- A text that is read without U+FFFD stands for its own octets, whatever comes after them. -/
theorem prefix_decodeChars_iff {front : List Char} (clean : '�' ∉ front)
    (octets : List UInt8) :
    front <+: decodeChars octets ↔ encodeChars front <+: octets := by
  constructor
  · intro begins
    have read := readAs_iff.mpr (rfl : decodeChars octets = _)
    generalize decodeChars octets = text at begins read
    induction read generalizing front with
    | nil => rw [List.prefix_nil.mp begins]; exact List.nil_prefix
    | char c later ih =>
        cases front with
        | nil => exact List.nil_prefix
        | cons first front =>
            obtain ⟨rfl, tails⟩ := List.cons_prefix_cons.mp begins
            rw [encodeChars_cons]
            exact (List.prefix_append_right_inj _).mpr
              (ih (fun mem => clean (List.mem_cons_of_mem _ mem)) tails)
    | illFormed broken later ih =>
        cases front with
        | nil => exact List.nil_prefix
        | cons first front =>
            obtain ⟨rfl, -⟩ := List.cons_prefix_cons.mp begins
            exact absurd (List.mem_cons_self ..) clean
  · rintro ⟨rest, rfl⟩
    have read : decodeChars (encodeChars front ++ rest) = front ++ decodeChars rest := by
      clear clean
      induction front with
      | nil => rfl
      | cons c front ih =>
          rw [decodeChars, parts, encodeChars_cons, List.append_assoc, partsFrom_encodeChar,
            List.map_cons]
          exact congrArg _ ih
    exact read ▸ List.prefix_append _ _

/-! ### Well-formed octets -/

theorem exists_eq_cons_of_parts {c : Char} {parts : List (Option Char)} {text : List Char}
    (h : some c :: parts = text.map some) : ∃ rest, text = c :: rest ∧ parts = rest.map some := by
  cases text with
  | nil => cases h
  | cons first rest =>
      obtain ⟨same, later⟩ := List.cons.inj h
      exact ⟨rest, by rw [Option.some.inj same], later⟩

/-- Octets of which every part is a character are what is written for these characters. The
induction is on the octets; what is unfinished on the way stands for octets that have been read
before. -/
theorem eq_encodeChars_of_parts (octets : List UInt8) :
    (∀ text, partsFrom none octets = text.map some → octets = encodeChars text) ∧
      ∀ {p : Pending} {part : List UInt8}, p.Holds part →
        ∀ text, partsFrom (some p) octets = text.map some → part ++ octets = encodeChars text := by
  induction octets with
  | nil =>
      refine ⟨fun text parts => ?_, fun {p part} _ text parts => ?_⟩
      · rw [List.map_eq_nil_iff.mp parts.symm]
        rfl
      · cases text <;> cases parts
  | cons b rest ih =>
      obtain ⟨fresh, goesOn⟩ := ih
      refine ⟨fun text parts => ?_, fun {p part} held text parts => ?_⟩
      · rw [partsFrom_cons] at parts
        cases role : lead b with
        | whole c =>
            simp only [step, begin, role] at parts
            obtain ⟨later, rfl, read⟩ := exists_eq_cons_of_parts parts
            rw [encodeChars_cons, encodeChar_of_lead role, ← fresh later read]
            rfl
        | first p =>
            simp only [step, begin, role] at parts
            exact goesOn (Pending.holds_of_lead role) text parts
        | illFormed =>
            simp only [step, begin, role] at parts
            cases text <;> cases parts
      · rw [partsFrom_cons] at parts
        cases continued : p.continues b with
        | false =>
            simp only [step, continued] at parts
            cases text <;> cases parts
        | true =>
            rw [← List.singleton_append, ← List.append_assoc]
            cases held.spells with
            | last done spelled =>
                simp only [step, continued, if_true, done] at parts
                obtain ⟨later, rfl, read⟩ := exists_eq_cons_of_parts parts
                rw [encodeChars_cons, spelled b continued, ← fresh later read]
            | more left goes =>
                simp only [step, continued, if_true, left] at parts
                exact goesOn (held.longer continued left (goes b continued)) text parts

/-- All parts are characters if they can be taken out together. -/
theorem eq_map_of_mapM_id {parts : List (Option Char)} {chars : List Char}
    (h : parts.mapM id = some chars) : parts = chars.map some := by
  induction parts generalizing chars with
  | nil =>
      cases h
      rfl
  | cons part parts ih =>
      rw [List.mapM_cons] at h
      cases part with
      | none => cases h
      | some c =>
          cases later : parts.mapM id with
          | none => simp [later] at h
          | some chars' =>
              obtain rfl : c :: chars' = chars := by simpa [later] using h
              rw [ih later, List.map_cons]

/-- Octets are read without tolerance as a text exactly if they are what is written for it. -/
theorem decode?_eq_some_iff {octets : List UInt8} {text : String} :
    decode? octets = some text ↔ octets = encode text := by
  constructor
  · intro read
    obtain ⟨chars, all, rfl⟩ := Option.map_eq_some_iff.mp read
    rw [encode, String.toList_ofList]
    exact (eq_encodeChars_of_parts octets).1 chars (eq_map_of_mapM_id all)
  · rintro rfl
    exact decode?_encode text

theorem decode?_eq_none_iff {octets : List UInt8} :
    decode? octets = none ↔ ∀ text, octets ≠ encode text := by
  simp only [Option.eq_none_iff_forall_ne_some, ne_eq, decode?_eq_some_iff]

end ReviewChannel.Utf8
