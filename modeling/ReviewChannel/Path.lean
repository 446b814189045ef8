import ReviewChannel.Text.Blank
import ReviewChannel.Text.Utf8

/-!
Paths: octets with a slash between components. Nothing is normalised, so a path keeps the spelling
that it was given, and taking a parent is a matter of spelling alone.

* `join` puts a name under a directory.
* `parent?` drops the last component. Empty components and single dots at the end do not count, and
  two dots are a component like any other.
* `ancestors` is a path and its parents, nearest first; it ends because a parent is shorter.
-/

namespace ReviewChannel

/-- A path in the octets in which it was given. -/
structure Path where
  octets : List UInt8
deriving DecidableEq, Repr, Inhabited

namespace Path

/-- The octet between components. -/
def slash : UInt8 := 47

def dot : UInt8 := 46

def ofText (text : String) : Path :=
  ⟨Utf8.encode text⟩

/-- The path as it is shown in messages. -/
def display (p : Path) : String :=
  Utf8.decodeLossy p.octets

def isAbsolute (p : Path) : Bool :=
  p.octets.head? == some slash

/-- The name under the directory. An absolute name stands for itself. -/
def join (dir name : Path) : Path :=
  if name.isAbsolute then name
  else if dir.octets.getLast?.all (· == slash) then ⟨dir.octets ++ name.octets⟩
  else ⟨dir.octets ++ slash :: name.octets⟩

/-! ### Components -/

/-- The octets between slashes. -/
def pieces : List UInt8 → List (List UInt8)
  | [] => [[]]
  | b :: rest =>
      if b = slash then [] :: pieces rest
      else match pieces rest with
        | [] => [[b]]
        | piece :: more => (b :: piece) :: more

/-- The pieces with a slash between each two. -/
def unpieces : List (List UInt8) → List UInt8
  | [] => []
  | [piece] => piece
  | piece :: more => piece ++ slash :: unpieces more

/-- Whether a piece names nothing: it is empty or a single dot. -/
def namesNothing (piece : List UInt8) : Bool :=
  piece.isEmpty || piece == [dot]

/-- The part of the path that no parent loses before the end: the root, or a leading dot. -/
def anchor (p : Path) : List UInt8 :=
  match p.octets with
  | b :: rest =>
      if b = slash then [slash]
      else if b = dot ∧ rest.head?.all (· == slash) then [dot]
      else []
  | [] => []

/-- The pieces after the anchor, last first, without those at the end that name nothing. -/
def named (p : Path) : List (List UInt8) :=
  (pieces (p.octets.drop p.anchor.length)).reverse.dropWhile namesNothing

/-- The path without its last component. The root and the empty path have no parent; the parent of
a single dot is the empty path. -/
def parent? (p : Path) : Option Path :=
  match p.named with
  | [] => if p.anchor = [dot] then some ⟨[]⟩ else none
  | _ :: before => some ⟨p.anchor ++ unpieces (before.dropWhile namesNothing).reverse⟩

/-! ### Parents are shorter -/

/-- The length of the pieces with one slash each. -/
def weight : List (List UInt8) → Nat
  | [] => 0
  | piece :: more => piece.length + 1 + weight more

theorem length_unpieces_le (ps : List (List UInt8)) : (unpieces ps).length ≤ weight ps - 1 := by
  induction ps using unpieces.induct with
  | case1 => simp [unpieces]
  | case2 piece => simp [unpieces, weight]
  | case3 piece more _ ih =>
      cases more with
      | nil => simp_all
      | cons second others =>
          simp [unpieces, weight] at ih ⊢
          omega

theorem weight_pieces (octets : List UInt8) : weight (pieces octets) = octets.length + 1 := by
  induction octets with
  | nil => rfl
  | cons b rest ih =>
      simp only [pieces]
      split
      · simp [weight] at ih ⊢
        omega
      · split
        · rename_i h
          simp [h, weight] at ih
        · rename_i h
          simp [h, weight] at ih ⊢
          omega

theorem weight_append (front back : List (List UInt8)) :
    weight (front ++ back) = weight front + weight back := by
  induction front with
  | nil => simp [weight]
  | cons piece more ih =>
      simp only [List.cons_append, weight, ih]
      omega

theorem weight_reverse (ps : List (List UInt8)) : weight ps.reverse = weight ps := by
  induction ps with
  | nil => rfl
  | cons piece more ih =>
      simp only [List.reverse_cons, weight_append, weight, ih]
      omega

theorem weight_dropWhile_le (q : List UInt8 → Bool) (ps : List (List UInt8)) :
    weight (ps.dropWhile q) ≤ weight ps := by
  induction ps with
  | nil => simp
  | cons piece more ih =>
      simp only [List.dropWhile_cons]
      split
      · simp [weight] at ih ⊢
        omega
      · exact Nat.le_refl _

theorem length_anchor_le (p : Path) : p.anchor.length ≤ p.octets.length := by
  unfold anchor
  split
  · rename_i h
    simp only [h]
    split
    · simp
    · split <;> simp
  · simp

/-- A parent is shorter than its path. -/
theorem length_parent_lt {p q : Path} (h : p.parent? = some q) :
    q.octets.length < p.octets.length := by
  unfold parent? at h
  split at h
  · split at h
    · rename_i ha
      have hlen := p.length_anchor_le
      simp only [Option.some.injEq] at h
      subst h
      simp only [ha] at hlen
      exact hlen
    · simp at h
  · rename_i piece before hn
    simp only [Option.some.injEq] at h
    subst h
    have hlen := p.length_anchor_le
    have hall : weight p.named ≤ p.octets.length - p.anchor.length + 1 := by
      refine Nat.le_trans (weight_dropWhile_le _ _) ?_
      rw [weight_reverse, weight_pieces]
      simp
    have hpiece : 0 < piece.length := by
      have hhead := List.head?_dropWhile_not namesNothing
        (pieces (p.octets.drop p.anchor.length)).reverse
      have hn' : List.dropWhile namesNothing
        (pieces (p.octets.drop p.anchor.length)).reverse = piece :: before := hn
      rw [hn'] at hhead
      simp only [List.head?_cons] at hhead
      cases piece with
      | nil => simp [namesNothing] at hhead
      | cons => simp
    rw [hn] at hall
    have hrest := length_unpieces_le (before.dropWhile namesNothing).reverse
    have hdrop := weight_dropWhile_le namesNothing before
    rw [weight_reverse] at hrest
    simp only [weight] at hall
    simp only [List.length_append]
    omega

/-- The path and its parents, nearest first. -/
def ancestors (p : Path) : List Path :=
  match h : p.parent? with
  | none => [p]
  | some q =>
      have : q.octets.length < p.octets.length := length_parent_lt h
      p :: q.ancestors
termination_by p.octets.length

/-! ### The socket of a work directory -/

/-- The name of a socket when none is given. -/
def defaultSocketName : String := "sock"

/-- The socket of the name in the work directory. A blank name means the default one, so that it
never names the directory itself. -/
def socketIn (workdir : Path) (name : String) : Path :=
  if (trimBlank name.toList).isEmpty then workdir.join (ofText defaultSocketName)
  else workdir.join (ofText name)

end Path

end ReviewChannel
