import ReviewChannel.Json.Reader

/-!
What is written for a JSON value is read as that value, in every layout whose gaps mean nothing.

* `Json.readChar_escape` — a character is read from what is written for it between quotes, so a text
  is (`readText_quoted`).
* `Json.readValue_layOut` — a value is read from what is written for it, whatever follows; with it
  go the items of arrays and the members of objects, by one induction on the value.
* `Json.parse_layOut` — a text that is one value, alone; `compact` and `pretty` write such texts.
* `Json.printable_compact` — on one line there are no control characters.
-/

namespace ReviewChannel.Json

/-! ### Gaps -/

theorem isGap_of_mem_nil : ∀ c ∈ ([] : List Char), isGap c = true :=
  fun _ mem => absurd mem List.not_mem_nil

theorem skipGap_append {gap : List Char} (blank : ∀ c ∈ gap, isGap c = true) (cs : List Char) :
    skipGap (gap ++ cs) = skipGap cs :=
  List.dropWhile_append_of_pos blank

theorem skipGap_cons {c : Char} (mark : isGap c = false) (cs : List Char) :
    skipGap (c :: cs) = c :: cs :=
  List.dropWhile_cons_of_neg (by simp [mark])

/-- A symbol is found after a gap. -/
theorem expect_append {gap : List Char} (blank : ∀ c ∈ gap, isGap c = true) {symbol : Char}
    (mark : isGap symbol = false) (cs : List Char) :
    expect symbol (gap ++ symbol :: cs) = some cs := by
  rw [expect, skipGap_append blank, skipGap_cons mark]
  exact if_pos rfl

/-- Another symbol is not found. -/
theorem expect_ne {gap : List Char} (blank : ∀ c ∈ gap, isGap c = true) (symbol : Char)
    {other : Char} (mark : isGap other = false) (ne : other ≠ symbol) (cs : List Char) :
    expect symbol (gap ++ other :: cs) = none := by
  rw [expect, skipGap_append blank, skipGap_cons mark]
  exact if_neg ne

/-! ### Texts -/

theorem hexValue?_hexDigit : ∀ n < 16, hexValue? (hexDigit n) = some n := by
  decide

/-- A control character is read from its code unit. -/
theorem readPoint_hexDigits {c : Char} (control : c.toNat < 0x20) (rest : List Char) :
    readPoint ('0' :: '0' :: hexDigit (c.toNat / 16) :: hexDigit (c.toNat % 16) :: rest) =
      some (c, rest) := by
  have zero : hexValue? '0' = some 0 := by decide
  have high := hexValue?_hexDigit (c.toNat / 16) (by omega)
  have low := hexValue?_hexDigit (c.toNat % 16) (by omega)
  have unit : readUnit ('0' :: '0' :: hexDigit (c.toNat / 16) :: hexDigit (c.toNat % 16) :: rest) =
      some (c.toNat, rest) := by
    simp only [readUnit, zero, high, low, Option.bind_eq_bind, Option.bind_some]
    exact congrArg (fun n => some (n, rest)) (by omega)
  have whole : isTrailing c.toNat = false ∧ isLeading c.toNat = false := by
    simp only [isTrailing, isLeading, Bool.and_eq_false_iff, decide_eq_false_iff_not]
    omega
  simp [readPoint, unit, whole, Char.ofNat_toNat]

/-- A character is read from what is written for it. -/
theorem readChar_escape (c : Char) (rest : List Char) :
    readChar (escape c ++ rest) = some (c, rest) := by
  unfold escape
  split
  · subst c; rfl
  split
  · subst c; rfl
  split
  · subst c; rfl
  split
  · subst c; rfl
  split
  · subst c; rfl
  split
  · subst c; rfl
  split
  · subst c; rfl
  split
  · rename_i control
    exact readPoint_hexDigits control rest
  · rename_i quote backslash _ _ _ _ _ plain
    rw [List.singleton_append, readChar]
    · simp [quote, plain]
    · simpa using backslash

theorem escape_ne_nil (c : Char) : escape c ≠ [] := by
  unfold escape
  repeat' split
  all_goals exact List.cons_ne_nil _ _

/-- What is written for a character does not begin with a quote. -/
theorem head?_escape (c : Char) : (escape c).head? ≠ some '"' := by
  unfold escape
  repeat' split
  all_goals simp_all

/-- Characters are read up to the quote, if the fuel allows for all of them and the quote. -/
theorem readChars_escape (chars rest : List Char) {fuel : Nat} (enough : chars.length < fuel) :
    readChars fuel (chars.flatMap escape ++ '"' :: rest) = some (chars, rest) := by
  induction chars generalizing fuel with
  | nil =>
      obtain ⟨fuel, rfl⟩ := Nat.exists_eq_succ_of_ne_zero (Nat.ne_of_gt enough)
      rw [List.flatMap_nil, List.nil_append, readChars]
  | cons c chars ih =>
      obtain ⟨fuel, rfl⟩ := Nat.exists_eq_succ_of_ne_zero (Nat.ne_of_gt (Nat.zero_lt_of_lt enough))
      have later := ih (Nat.lt_of_succ_lt_succ enough)
      have first := readChar_escape c (chars.flatMap escape ++ '"' :: rest)
      rw [List.flatMap_cons, List.append_assoc, readChars, first]
      · simp [later]
      · intro others eq
        obtain ⟨d, ds, split⟩ := List.exists_cons_of_ne_nil (escape_ne_nil c)
        have head := head?_escape c
        rw [split] at eq head
        exact head (congrArg some (List.cons.inj eq).1)

theorem length_le_flatMap_escape (chars : List Char) :
    chars.length ≤ (chars.flatMap escape).length := by
  induction chars with
  | nil => exact Nat.le_refl 0
  | cons c chars ih =>
      have one := List.length_pos_iff.mpr (escape_ne_nil c)
      rw [List.flatMap_cons, List.length_append, List.length_cons]
      omega

/-- A text is read from what is written for it, after the first quote. -/
theorem readText_escape (s : String) (rest : List Char) :
    readText (s.toList.flatMap escape ++ '"' :: rest) = some (s, rest) := by
  have longer := length_le_flatMap_escape s.toList
  have enough : s.toList.length < (s.toList.flatMap escape ++ '"' :: rest).length := by
    rw [List.length_append, List.length_cons]
    omega
  rw [readText, readChars_escape _ rest enough]
  simp

theorem quoted_append (s : String) (rest : List Char) :
    quoted s ++ rest = '"' :: (s.toList.flatMap escape ++ '"' :: rest) := by
  simp [quoted]

/-! ### Values -/

/-- A layout whose gaps mean nothing. -/
structure Layout.Legible (l : Layout) : Prop where
  before : ∀ level, ∀ c ∈ l.before level, isGap c = true
  colon : ∃ gap, l.colon = ':' :: gap ∧ ∀ c ∈ gap, isGap c = true

theorem Layout.legible_compact : Layout.compact.Legible where
  before _ := isGap_of_mem_nil
  colon := ⟨[], rfl, isGap_of_mem_nil⟩

theorem Layout.legible_pretty : Layout.pretty.Legible where
  before _ _ mem := by
    rcases List.mem_cons.mp mem with rfl | mem
    · rfl
    · rw [List.eq_of_mem_replicate mem]
      rfl
  colon := ⟨[' '], rfl, List.forall_mem_singleton.mpr rfl⟩

/-- What is written for a value begins with no gap. -/
theorem skipGap_layOut (l : Layout) (level : Nat) (v : Json) (rest : List Char) :
    skipGap (layOut l level v ++ rest) = layOut l level v ++ rest := by
  cases v with
  | null => rfl
  | boolean b => cases b <;> rfl
  | text s => rfl
  | array items => cases items <;> rfl
  | object members => cases members <;> rfl

/-- What is written for a value does not begin with the end of an array. -/
theorem expect_layOut {gap : List Char} (blank : ∀ c ∈ gap, isGap c = true) (l : Layout)
    (level : Nat) (v : Json) (rest : List Char) :
    expect ']' (gap ++ (layOut l level v ++ rest)) = none := by
  rw [expect, skipGap_append blank, skipGap_layOut]
  cases v with
  | null => rfl
  | boolean b => cases b <;> rfl
  | text s => rfl
  | array items => cases items <;> rfl
  | object members => cases members <;> rfl

/-- What is written between quotes is found after the first of them. -/
theorem expect_quoted {gap : List Char} (blank : ∀ c ∈ gap, isGap c = true) (s : String)
    (rest : List Char) :
    expect '"' (gap ++ (quoted s ++ rest)) = some (s.toList.flatMap escape ++ '"' :: rest) := by
  rw [quoted_append]
  exact expect_append blank rfl _

/-- What stands between a name and its value is passed over up to a gap. -/
theorem expect_colon {l : Layout} {gap : List Char} (colon : l.colon = ':' :: gap)
    (rest : List Char) : expect ':' (l.colon ++ rest) = some (gap ++ rest) := by
  rw [colon]
  exact expect_append isGap_of_mem_nil rfl _

theorem length_layOut_pos (l : Layout) (level : Nat) (v : Json) :
    0 < (layOut l level v).length := by
  cases v with
  | null => exact Nat.zero_lt_succ _
  | boolean b => cases b <;> exact Nat.zero_lt_succ _
  | text s => exact Nat.zero_lt_succ _
  | array items => cases items <;> simp [layOut]
  | object members => cases members <;> simp [layOut]

section Reading

variable {l : Layout}

mutual

/-- A value is read from what is written for it, after a gap and before anything. -/
theorem readValue_layOut (legible : l.Legible) (v : Json) (level : Nat) {gap : List Char}
    (blank : ∀ c ∈ gap, isGap c = true) (rest : List Char) {fuel : Nat}
    (enough : (layOut l level v).length ≤ fuel) :
    readValue fuel (gap ++ (layOut l level v ++ rest)) = some (v, rest) := by
  have skipped : skipGap (gap ++ (layOut l level v ++ rest)) = layOut l level v ++ rest := by
    rw [skipGap_append blank, skipGap_layOut]
  match v, fuel with
  | .null, fuel + 1 =>
      rw [readValue, skipped]
      rfl
  | .boolean true, fuel + 1 =>
      rw [readValue, skipped]
      rfl
  | .boolean false, fuel + 1 =>
      rw [readValue, skipped]
      rfl
  | .text s, fuel + 1 =>
      rw [readValue, skipped, layOut, quoted_append]
      simp [readText_escape]
  | .array [], fuel + 1 =>
      rw [readValue, skipped]
      rfl
  | .array (item :: items), fuel + 1 =>
      have inside : (layOut l (level + 1) item).length + (layOutItems l (level + 1) items).length <
          fuel := by
        simp only [layOut, List.length_append, List.length_cons] at enough
        omega
      have read := readItems_layOut legible item items (level + 1)
        (legible.before (level + 1)) (legible.before level) rest inside
      have begun := expect_layOut (legible.before (level + 1)) l (level + 1) item
        (layOutItems l (level + 1) items ++ (l.before level ++ ']' :: rest))
      rw [readValue, skipped, layOut]
      simp only [List.cons_append, List.append_assoc, List.nil_append]
      simp only [begun, read, Option.bind_eq_bind, Option.bind_some, Option.pure_def]
  | .object [], fuel + 1 =>
      rw [readValue, skipped]
      rfl
  | .object ((name, value) :: members), fuel + 1 =>
      have inside : (quoted name).length + (layOut l (level + 1) value).length +
          (layOutMembers l (level + 1) members).length < fuel := by
        simp only [layOut, List.length_append, List.length_cons] at enough
        omega
      have read := readMembers_layOut legible name value members (level + 1)
        (legible.before (level + 1)) (legible.before level) rest inside
      have begun := expect_ne (legible.before (level + 1)) '\x7d'
        (by decide : isGap '"' = false) (by decide) (name.toList.flatMap escape ++ '"' ::
          (l.colon ++ (layOut l (level + 1) value ++ (layOutMembers l (level + 1) members ++
            (l.before level ++ '\x7d' :: rest)))))
      rw [← quoted_append] at begun
      rw [readValue, skipped, layOut]
      simp only [List.cons_append, List.append_assoc, List.nil_append]
      simp only [begun, read, Option.bind_eq_bind, Option.bind_some, Option.pure_def]
  | v, 0 => exact absurd enough (Nat.not_le_of_lt (length_layOut_pos l level v))
termination_by sizeOf v

/-- The items of an array are read from what is written for them, up to the end of the array. -/
theorem readItems_layOut (legible : l.Legible) (item : Json) (items : List Json) (level : Nat)
    {gap closing : List Char} (blank : ∀ c ∈ gap, isGap c = true)
    (closes : ∀ c ∈ closing, isGap c = true) (rest : List Char) {fuel : Nat}
    (enough : (layOut l level item).length + (layOutItems l level items).length < fuel) :
    readItems fuel
        (gap ++ (layOut l level item ++ (layOutItems l level items ++ (closing ++ ']' :: rest)))) =
      some (item :: items, rest) := by
  match items, fuel with
  | [], fuel + 1 =>
      have room : (layOut l level item).length ≤ fuel := by omega
      have first := readValue_layOut legible item level blank
        (layOutItems l level [] ++ (closing ++ ']' :: rest)) room
      have ended := expect_append closes (by decide : isGap ']' = false) rest
      simp only [layOutItems, List.nil_append] at first
      simp only [readItems, first, layOutItems, List.nil_append, ended, Option.bind_eq_bind,
        Option.bind_some, Option.pure_def]
  | next :: items, fuel + 1 =>
      have room : (layOut l level item).length ≤ fuel := by omega
      have first := readValue_layOut legible item level blank
        (layOutItems l level (next :: items) ++ (closing ++ ']' :: rest)) room
      have inside : (layOut l level next).length + (layOutItems l level items).length < fuel := by
        simp only [layOutItems, List.length_append, List.length_cons] at enough
        omega
      have later := readItems_layOut legible next items level (legible.before level) closes rest
        inside
      have goesOn := expect_ne isGap_of_mem_nil ']' (by decide : isGap ',' = false) (by decide)
        (l.before level ++ (layOut l level next ++ (layOutItems l level items ++
          (closing ++ ']' :: rest))))
      have comma := expect_append isGap_of_mem_nil (by decide : isGap ',' = false)
        (l.before level ++ (layOut l level next ++ (layOutItems l level items ++
          (closing ++ ']' :: rest))))
      rw [readItems, first, layOutItems]
      simp only [List.cons_append, List.append_assoc, List.nil_append] at goesOn comma ⊢
      simp only [goesOn, comma, later, Option.bind_eq_bind, Option.bind_some, Option.pure_def]
  | items, 0 => omega
termination_by sizeOf item + sizeOf items

/-- The members of an object are read from what is written for them, up to the end of the object. -/
theorem readMembers_layOut (legible : l.Legible) (name : String) (value : Json)
    (members : List (String × Json)) (level : Nat) {gap closing : List Char}
    (blank : ∀ c ∈ gap, isGap c = true) (closes : ∀ c ∈ closing, isGap c = true)
    (rest : List Char) {fuel : Nat}
    (enough : (quoted name).length + (layOut l level value).length +
      (layOutMembers l level members).length < fuel) :
    readMembers fuel (gap ++ (quoted name ++ (l.colon ++ (layOut l level value ++
        (layOutMembers l level members ++ (closing ++ '\x7d' :: rest)))))) =
      some ((name, value) :: members, rest) := by
  obtain ⟨pause, colon, paused⟩ := legible.colon
  match members, fuel with
  | members, 0 => omega
  | [], fuel + 1 =>
      have room : (layOut l level value).length ≤ fuel := by omega
      have first := readValue_layOut legible value level paused
        (layOutMembers l level [] ++ (closing ++ '\x7d' :: rest)) room
      have ended := expect_append closes (by decide : isGap '\x7d' = false) rest
      simp only [layOutMembers, List.nil_append] at first
      simp only [readMembers, layOutMembers, List.nil_append, expect_quoted blank, readText_escape,
        expect_colon colon, first, ended, Option.bind_eq_bind, Option.bind_some, Option.pure_def]
  | (next, v) :: members, fuel + 1 =>
      have room : (layOut l level value).length ≤ fuel := by omega
      have first := readValue_layOut legible value level paused
        (layOutMembers l level ((next, v) :: members) ++ (closing ++ '\x7d' :: rest)) room
      have inside : (quoted next).length + (layOut l level v).length +
          (layOutMembers l level members).length < fuel := by
        simp only [layOutMembers, List.length_append, List.length_cons] at enough
        omega
      have later := readMembers_layOut legible next v members level (legible.before level) closes
        rest inside
      have goesOn := expect_ne isGap_of_mem_nil '\x7d' (by decide : isGap ',' = false)
        (by decide) (l.before level ++ (quoted next ++ (l.colon ++
          (layOut l level v ++ (layOutMembers l level members ++ (closing ++ '\x7d' :: rest))))))
      have comma := expect_append isGap_of_mem_nil (by decide : isGap ',' = false)
        (l.before level ++ (quoted next ++ (l.colon ++ (layOut l level v ++
          (layOutMembers l level members ++ (closing ++ '\x7d' :: rest))))))
      simp only [layOutMembers, List.cons_append, List.append_assoc, List.nil_append]
        at first goesOn comma ⊢
      simp only [readMembers, expect_quoted blank, readText_escape, expect_colon colon, first,
        goesOn, comma, later, Option.bind_eq_bind, Option.bind_some, Option.pure_def]
termination_by sizeOf value + sizeOf members

end

/-- A text that is one value is read as that value. -/
theorem parse_layOut (legible : l.Legible) (v : Json) :
    parse (String.ofList (layOut l 0 v)) = some v := by
  have read := readValue_layOut legible v 0 isGap_of_mem_nil []
    (Nat.le_succ (layOut l 0 v).length)
  rw [List.nil_append, List.append_nil] at read
  rw [parse, String.toList_ofList, read]
  rfl

theorem parse_compact (v : Json) : parse v.compact = some v :=
  parse_layOut Layout.legible_compact v

theorem parse_pretty (v : Json) : parse v.pretty = some v :=
  parse_layOut Layout.legible_pretty v

end Reading

/-! ### Lines -/

/-- No character is a control character. -/
def Printable (cs : List Char) : Prop :=
  ∀ c ∈ cs, 0x20 ≤ c.toNat

instance (cs : List Char) : Decidable (Printable cs) :=
  List.decidableBAll (fun c : Char => 0x20 ≤ c.toNat) cs

theorem printable_nil : Printable [] :=
  fun _ mem => absurd mem List.not_mem_nil

theorem Printable.cons {c : Char} (first : 0x20 ≤ c.toNat) {cs : List Char} (h : Printable cs) :
    Printable (c :: cs) :=
  List.forall_mem_cons.mpr ⟨first, h⟩

theorem Printable.append {xs ys : List Char} (hx : Printable xs) (hy : Printable ys) :
    Printable (xs ++ ys) :=
  List.forall_mem_append.mpr ⟨hx, hy⟩

theorem printable_hexDigit : ∀ n < 16, 0x20 ≤ (hexDigit n).toNat := by
  decide

/-- Control characters are escaped, and their escapes have none. -/
theorem printable_escape (c : Char) : Printable (escape c) := by
  have short (d : Char) (visible : 0x20 ≤ d.toNat) : Printable ['\\', d] :=
    .cons (by decide) (.cons visible printable_nil)
  unfold escape
  split
  · exact short '"' (by decide)
  split
  · exact short '\\' (by decide)
  split
  · exact short 'b' (by decide)
  split
  · exact short 'f' (by decide)
  split
  · exact short 'n' (by decide)
  split
  · exact short 'r' (by decide)
  split
  · exact short 't' (by decide)
  split
  · have high := printable_hexDigit (c.toNat / 16) (by omega)
    have low := printable_hexDigit (c.toNat % 16) (by omega)
    have leading : Printable ['\\', 'u', '0', '0'] := by decide
    exact leading.append (.cons high (.cons low printable_nil))
  · rename_i plain
    exact .cons (Nat.le_of_not_lt plain) printable_nil

theorem printable_quoted (s : String) : Printable (quoted s) := by
  have inside : Printable (s.toList.flatMap escape) := fun d mem => by
    obtain ⟨c, -, mem⟩ := List.mem_flatMap.mp mem
    exact printable_escape c d mem
  have quote : Printable ['"'] := by decide
  exact (quote.append inside).append quote

section Printable

variable {l : Layout}

/-- A layout that writes no control characters. -/
structure Layout.Printable (l : Layout) : Prop where
  before : ∀ level, Json.Printable (l.before level)
  colon : Json.Printable l.colon

theorem Layout.printable_compact : Layout.compact.Printable :=
  ⟨fun _ => printable_nil, by decide⟩

mutual

/-- What is written for a value has no control characters but those of the layout. -/
theorem printable_layOut (h : l.Printable) (v : Json) (level : Nat) :
    Printable (layOut l level v) := by
  match v with
  | .null => rw [layOut]; decide
  | .boolean true => rw [layOut]; decide
  | .boolean false => rw [layOut]; decide
  | .text s => exact printable_quoted s
  | .array [] => rw [layOut]; decide
  | .array (item :: items) =>
      have first := printable_layOut h item (level + 1)
      have later := printable_layOutItems h items (level + 1)
      have opening : Printable ['['] := by decide
      have closing : Printable [']'] := by decide
      rw [layOut]
      exact ((((opening.append (h.before _)).append first).append later).append
        (h.before _)).append closing
  | .object [] => rw [layOut]; decide
  | .object ((name, value) :: members) =>
      have first := printable_layOut h value (level + 1)
      have later := printable_layOutMembers h members (level + 1)
      have opening : Printable ['\x7b'] := by decide
      have closing : Printable ['\x7d'] := by decide
      rw [layOut]
      exact ((((((opening.append (h.before _)).append (printable_quoted name)).append
        h.colon).append first).append later).append (h.before _)).append closing
termination_by sizeOf v

theorem printable_layOutItems (h : l.Printable) (items : List Json) (level : Nat) :
    Printable (layOutItems l level items) := by
  match items with
  | [] => exact printable_nil
  | item :: items =>
      have first := printable_layOut h item level
      have later := printable_layOutItems h items level
      have comma : Printable [','] := by decide
      rw [layOutItems]
      exact ((comma.append (h.before _)).append first).append later
termination_by sizeOf items

theorem printable_layOutMembers (h : l.Printable) (members : List (String × Json))
    (level : Nat) : Printable (layOutMembers l level members) := by
  match members with
  | [] => exact printable_nil
  | (name, value) :: members =>
      have first := printable_layOut h value level
      have later := printable_layOutMembers h members level
      have comma : Printable [','] := by decide
      rw [layOutMembers]
      exact ((((comma.append (h.before _)).append (printable_quoted name)).append
        h.colon).append first).append later
termination_by sizeOf members

end

theorem printable_compact (v : Json) : Printable v.compact.toList := by
  rw [compact, String.toList_ofList]
  exact printable_layOut Layout.printable_compact v 0

end Printable

end ReviewChannel.Json
