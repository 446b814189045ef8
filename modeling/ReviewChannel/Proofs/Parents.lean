import Mathlib.Data.List.DropRight
import ReviewChannel.Path

/-!
What the parents of a path are.

* `Path.components` says what a path is made of, without taking a parent: perhaps the root or a dot
  in front, and then names.
* `Path.IsParent` — the parent by its components: all of them but the last, spelled as the shortest
  beginning of the path that has them. `Path.parent?_eq_some_iff` and `Path.parent?_eq_none_iff` —
  that is what `parent?` gives, and only the root and the empty path have none.
* `Path.Rises` — taking so many parents. `Path.exists_rises_iff` — there are as many as there are
  components besides the root, so they come to an end, and `Path.getElem?_ancestors` — they are the
  ancestors of the path.
-/

namespace ReviewChannel.Path

/-! ### Components -/

/-- A component of a path. -/
inductive Component where
  /-- The slash at the front. -/
  | root
  /-- A single dot at the front. -/
  | here
  /-- A name between slashes. Two dots are a name like any other. -/
  | name (octets : List UInt8)
deriving DecidableEq, Repr

/-- The names among the octets between slashes. -/
def names (octets : List UInt8) : List Component :=
  ((pieces octets).filter (!namesNothing ·)).map .name

def components (p : Path) : List Component :=
  (if p.isAbsolute then [.root]
    else if (pieces p.octets).head? = some [dot] then [.here]
    else []) ++ names p.octets

/-- The parent of a path: it has all components but the last, and is the shortest beginning of the
path that has them. -/
structure IsParent (p q : Path) : Prop where
  nonempty : p.components ≠ []
  notRoot : p.components ≠ [.root]
  components_eq : q.components = p.components.dropLast
  begins : q.octets <+: p.octets
  shortest : ∀ r : Path, r.octets <+: p.octets → r.components = q.components →
    q.octets.length ≤ r.octets.length

/-- A path has one parent at most. -/
theorem IsParent.unique {p q q' : Path} (h : IsParent p q) (h' : IsParent p q') : q = q' := by
  have le := h.shortest q' h'.begins (h'.components_eq.trans h.components_eq.symm)
  have ge := h'.shortest q h.begins (h.components_eq.trans h'.components_eq.symm)
  have same := (List.prefix_of_prefix_length_le h.begins h'.begins le).eq_of_length
    (Nat.le_antisymm le ge)
  cases q
  cases q'
  exact congrArg _ same

/-! ### Pieces -/

theorem pieces_ne_nil (octets : List UInt8) : pieces octets ≠ [] := by
  cases octets with
  | nil => exact List.cons_ne_nil _ _
  | cons b rest =>
      rw [pieces]
      split
      · exact List.cons_ne_nil _ _
      · split <;> exact List.cons_ne_nil _ _

/-- A slash cuts octets into those before it and those after it. -/
theorem pieces_append_slash (before after : List UInt8) :
    pieces (before ++ slash :: after) = pieces before ++ pieces after := by
  induction before with
  | nil => rfl
  | cons b before ih =>
      rw [List.cons_append, pieces, pieces, ih]
      split
      · rfl
      · obtain ⟨piece, more, first⟩ := List.exists_cons_of_ne_nil (pieces_ne_nil before)
        rw [first]
        rfl

/-- Octets without a slash are one piece. -/
theorem pieces_of_not_mem {octets : List UInt8} (none : slash ∉ octets) :
    pieces octets = [octets] := by
  induction octets with
  | nil => rfl
  | cons b rest ih =>
      rw [List.mem_cons, not_or] at none
      rw [pieces, if_neg (Ne.symm none.1), ih none.2]

theorem slash_not_mem_of_mem_pieces {octets piece : List UInt8} (mem : piece ∈ pieces octets) :
    slash ∉ piece := by
  induction octets generalizing piece with
  | nil =>
      rw [List.mem_singleton.mp mem]
      exact List.not_mem_nil
  | cons b rest ih =>
      obtain ⟨first, more, cut⟩ := List.exists_cons_of_ne_nil (pieces_ne_nil rest)
      rw [pieces, cut] at mem
      rw [cut] at ih
      split at mem
      · rcases List.mem_cons.mp mem with rfl | later
        · exact List.not_mem_nil
        · exact ih later
      · rename_i other
        rcases List.mem_cons.mp mem with rfl | later
        · rw [List.mem_cons, not_or]
          exact ⟨Ne.symm other, ih (List.mem_cons_self ..)⟩
        · exact ih (List.mem_cons_of_mem _ later)

theorem unpieces_append {front back : List (List UInt8)} (some : front ≠ []) (more : back ≠ []) :
    unpieces (front ++ back) = unpieces front ++ slash :: unpieces back := by
  induction front with
  | nil => exact absurd rfl some
  | cons piece front ih =>
      cases front with
      | nil =>
          obtain ⟨second, others, rfl⟩ := List.exists_cons_of_ne_nil more
          rfl
      | cons second others =>
          have later := ih (List.cons_ne_nil _ _)
          simp only [List.cons_append, unpieces] at later ⊢
          rw [later]
          simp

theorem unpieces_pieces (octets : List UInt8) : unpieces (pieces octets) = octets := by
  induction octets with
  | nil => rfl
  | cons b rest ih =>
      obtain ⟨piece, more, cut⟩ := List.exists_cons_of_ne_nil (pieces_ne_nil rest)
      rw [pieces, cut]
      rw [cut] at ih
      split
      · rename_i eq
        rw [eq, ← ih]
        rfl
      · rw [← ih]
        cases more <;> rfl

theorem pieces_unpieces {ps : List (List UInt8)} (some : ps ≠ [])
    (cut : ∀ piece ∈ ps, slash ∉ piece) : pieces (unpieces ps) = ps := by
  induction ps with
  | nil => exact absurd rfl some
  | cons piece more ih =>
      have first := pieces_of_not_mem (cut piece (List.mem_cons_self ..))
      cases more with
      | nil => exact first
      | cons second others =>
          rw [unpieces, pieces_append_slash, first,
            ih (List.cons_ne_nil _ _) fun piece mem => cut piece (List.mem_cons_of_mem _ mem)]
          · rfl
          · exact List.cons_ne_nil _ _

theorem names_unpieces {ps : List (List UInt8)} (cut : ∀ piece ∈ ps, slash ∉ piece) :
    names (unpieces ps) = (ps.filter (!namesNothing ·)).map .name := by
  cases ps with
  | nil => rfl
  | cons piece more => rw [names, pieces_unpieces (List.cons_ne_nil _ _) cut]

/-! ### What stands in front -/

/-- The octets after the anchor. -/
def body (p : Path) : List UInt8 :=
  p.octets.drop p.anchor.length

def anchored (anchor : List UInt8) : List Component :=
  if anchor = [slash] then [.root] else if anchor = [dot] then [.here] else []

theorem anchor_append_body (p : Path) : p.anchor ++ p.body = p.octets := by
  obtain ⟨octets⟩ := p
  cases octets with
  | nil => rfl
  | cons b rest =>
      simp only [body, anchor]
      split
      · rename_i eq
        rw [eq]
        rfl
      · split
        · rename_i lone
          rw [lone.1]
          rfl
        · rfl

/-- The first piece is a dot exactly if the anchor is one. -/
theorem head?_pieces_eq_dot_iff {b : UInt8} {rest : List UInt8} (other : b ≠ slash) :
    (pieces (b :: rest)).head? = some [dot] ↔ b = dot ∧ rest.head?.all (· == slash) = true := by
  rw [pieces, if_neg other]
  cases rest with
  | nil => simp [pieces]
  | cons c rest =>
      obtain ⟨piece, more, cut⟩ := List.exists_cons_of_ne_nil (pieces_ne_nil rest)
      by_cases eq : c = slash <;> simp [pieces, cut, eq]

/-- The components are the anchor and the names after it. -/
theorem components_eq_anchored (p : Path) : p.components = anchored p.anchor ++ names p.body := by
  obtain ⟨octets⟩ := p
  cases octets with
  | nil => rfl
  | cons b rest =>
      by_cases eq : b = slash
      · rw [eq]
        rfl
      · have relative : isAbsolute ⟨b :: rest⟩ = false := by simpa [isAbsolute] using eq
        by_cases lone : b = dot ∧ rest.head?.all (· == slash) = true
        · have front : anchor ⟨b :: rest⟩ = [dot] := by simp only [anchor, if_neg eq, if_pos lone]
          have after : body ⟨b :: rest⟩ = rest := by rw [body, front]; rfl
          have same : names (b :: rest) = names rest := by
            obtain ⟨rfl, ends⟩ := lone
            cases rest with
            | nil => rfl
            | cons c rest =>
                obtain rfl : c = slash := by simpa using ends
                rfl
          rw [components, relative, front, after, same, if_neg Bool.false_ne_true,
            if_pos ((head?_pieces_eq_dot_iff eq).mpr lone)]
          rfl
        · have front : anchor ⟨b :: rest⟩ = [] := by simp only [anchor, if_neg eq, if_neg lone]
          rw [components, relative, body, front, if_neg Bool.false_ne_true,
            if_neg (mt (head?_pieces_eq_dot_iff eq).mp lone)]
          rfl

/-- What follows a slash does not matter for what stands in front. -/
theorem anchor_append_slash {before : List UInt8} (some : before ≠ []) (after : List UInt8) :
    anchor ⟨before ++ slash :: after⟩ = anchor ⟨before⟩ := by
  obtain ⟨b, rest, rfl⟩ := List.exists_cons_of_ne_nil some
  cases rest <;> simp [anchor]

theorem anchor_cases (p : Path) : p.anchor = [slash] ∨ p.anchor = [dot] ∨ p.anchor = [] := by
  unfold anchor
  split
  · split
    · exact Or.inl rfl
    · split
      · exact Or.inr (Or.inl rfl)
      · exact Or.inr (Or.inr rfl)
  · exact Or.inr (Or.inr rfl)

theorem anchor_anchor (p : Path) : anchor ⟨p.anchor⟩ = p.anchor := by
  rcases p.anchor_cases with eq | eq | eq <;> rw [eq] <;> rfl

/-- No shorter path has the components of an anchor. -/
theorem length_le_of_anchor {p r : Path} (alone : p.octets = p.anchor)
    (same : r.components = p.components) : p.octets.length ≤ r.octets.length := by
  obtain ⟨octets⟩ := r
  cases octets with
  | nil =>
      have none : anchored p.anchor = [] := by
        rw [components_eq_anchored p] at same
        exact (List.append_eq_nil_iff.mp same.symm).1
      rw [alone]
      rcases p.anchor_cases with eq | eq | eq <;> rw [eq] at none ⊢
      · exact absurd none (by simp [anchored])
      · exact absurd none (by simp [anchored, dot, slash])
  | cons b rest => rcases p.anchor_cases with eq | eq | eq <;> rw [alone, eq] <;> simp

/-- The octets before the first name are no part of the last piece. -/
theorem getLast?_pieces_octets {p : Path} (more : p.body ≠ []) :
    (pieces p.octets).getLast? = (pieces p.body).getLast? := by
  have whole := p.anchor_append_body
  rcases p.anchor_cases with eq | eq | eq <;> rw [eq] at whole
  · rw [← whole, List.singleton_append, pieces, if_pos rfl]
    exact List.getLast?_cons_of_ne_nil (pieces_ne_nil _)
  · obtain ⟨c, rest, after⟩ := List.exists_cons_of_ne_nil more
    have ends : c = slash := by
      rw [after] at whole
      obtain ⟨octets⟩ := p
      subst whole
      by_contra other
      simp [anchor, dot, slash] at eq
      exact other eq
    rw [← whole, after, ends]
    exact (List.getLast?_cons_of_ne_nil (pieces_ne_nil rest)).trans
      (List.getLast?_cons_of_ne_nil (pieces_ne_nil rest)).symm
  · rw [← whole, List.nil_append]

/-! ### How long the names are -/

/-- How many octets a name has. -/
def Component.length : Component → Nat
  | name octets => octets.length
  | root | here => 0

/-- How many octets the names among components have. -/
def extent : List Component → Nat
  | [] => 0
  | component :: later => component.length + extent later

theorem extent_append (front back : List Component) :
    extent (front ++ back) = extent front + extent back := by
  induction front with
  | nil => rw [List.nil_append, extent, Nat.zero_add]
  | cons component front ih => rw [List.cons_append, extent, extent, ih, Nat.add_assoc]

theorem extent_components (p : Path) : extent p.components = extent (names p.octets) := by
  rw [components, extent_append, Nat.add_eq_right]
  split
  · rfl
  · split <;> rfl

/-- How many octets a piece adds to the names. -/
def weightOf (piece : List UInt8) : Nat :=
  if namesNothing piece then 0 else piece.length

theorem names_of_pieces {octets : List UInt8} {front : List (List UInt8)} {last : List UInt8}
    (cut : pieces octets = front ++ [last]) :
    extent (names octets) =
      extent ((front.filter (!namesNothing ·)).map .name) + weightOf last := by
  rw [names, cut, List.filter_append, List.map_append, extent_append, Nat.add_right_inj, weightOf]
  cases nothing : namesNothing last <;> simp [nothing, extent, Component.length]

/-- An octet that is no slash belongs to the last piece. -/
theorem exists_pieces_concat {b : UInt8} (other : b ≠ slash) (octets : List UInt8) :
    ∃ front last, pieces octets = front ++ [last] ∧
      pieces (octets ++ [b]) = front ++ [last ++ [b]] := by
  induction octets with
  | nil => exact ⟨[], [], rfl, pieces_of_not_mem (by simpa using other.symm)⟩
  | cons c rest ih =>
      obtain ⟨front, last, cut, longer⟩ := ih
      by_cases eq : c = slash
      · exact ⟨[] :: front, last, by simp [pieces, eq, cut], by simp [pieces, eq, longer]⟩
      · cases front with
        | nil => exact ⟨[], c :: last, by simp [pieces, eq, cut], by simp [pieces, eq, longer]⟩
        | cons piece more =>
            exact ⟨(c :: piece) :: more, last, by simp [pieces, eq, cut],
              by simp [pieces, eq, longer]⟩

theorem weightOf_concat (piece : List UInt8) (b : UInt8) :
    weightOf piece ≤ weightOf (piece ++ [b]) ∧
      (namesNothing (piece ++ [b]) = false → weightOf piece < weightOf (piece ++ [b])) := by
  by_cases nothing : namesNothing (piece ++ [b]) = true
  · have empty : piece = [] := by
      cases piece with
      | nil => rfl
      | cons c rest => simp [namesNothing] at nothing
    exact ⟨by simp [empty, weightOf, namesNothing], fun named => absurd nothing (by simp [named])⟩
  · have longer : weightOf piece < weightOf (piece ++ [b]) := by
      unfold weightOf
      rw [if_neg nothing, List.length_append, List.length_singleton]
      split <;> omega
    exact ⟨Nat.le_of_lt longer, fun _ => longer⟩

/-- One more octet takes nothing from the names, and adds to them if it belongs to one. -/
theorem extent_names_concat (octets : List UInt8) (b : UInt8) :
    extent (names octets) ≤ extent (names (octets ++ [b])) ∧
      ((∀ last ∈ (pieces (octets ++ [b])).getLast?, namesNothing last = false) →
        extent (names octets) < extent (names (octets ++ [b]))) := by
  by_cases eq : b = slash
  · have cut : pieces (octets ++ [b]) = pieces octets ++ [[]] := by
      rw [eq, pieces_append_slash]
      rfl
    have same : names (octets ++ [b]) = names octets := by
      rw [names, cut, List.filter_append, List.map_append]
      exact List.append_nil _
    refine ⟨by rw [same], fun named => ?_⟩
    exact absurd (named [] (by simp [cut])) (by simp [namesNothing])
  · obtain ⟨front, last, cut, longer⟩ := exists_pieces_concat eq octets
    obtain ⟨le, lt⟩ := weightOf_concat last b
    rw [names_of_pieces cut, names_of_pieces longer]
    refine ⟨Nat.add_le_add_left le _, fun named => Nat.add_lt_add_left (lt ?_) _⟩
    exact named _ (by simp [longer])

theorem extent_names_le {front octets : List UInt8} (begins : front <+: octets) :
    extent (names front) ≤ extent (names octets) := by
  obtain ⟨rest, rfl⟩ := begins
  induction rest generalizing front with
  | nil => rw [List.append_nil]
  | cons b rest ih =>
      have later := @ih (front ++ [b])
      rw [List.append_assoc] at later
      exact Nat.le_trans (extent_names_concat front b).1 later

/-! ### Taking the parent -/

/-- A path without names is the root, a dot or nothing. -/
theorem names_eq_nil_of_named {p : Path} (none : p.named = []) : names p.body = [] := by
  have all := List.dropWhile_eq_nil_iff.mp none
  rw [names, List.map_eq_nil_iff, List.filter_eq_nil_iff]
  intro piece mem
  simpa using all piece (List.mem_reverse.mpr mem)

theorem filter_takeWhile_namesNothing (ps : List (List UInt8)) :
    (ps.takeWhile namesNothing).filter (!namesNothing ·) = [] := by
  rw [List.filter_eq_nil_iff]
  intro piece mem
  simp [List.mem_takeWhile_imp mem]

/-- The pieces of a path with a name: those before the last name, without the last ones of them that
name nothing, and those from there on. -/
theorem exists_pieces_of_named {p : Path} {piece : List UInt8} {before : List (List UInt8)}
    (last : p.named = piece :: before) :
    ∃ back, pieces p.body = (before.dropWhile namesNothing).reverse ++ back ∧ back ≠ [] ∧
      back.filter (!namesNothing ·) = [piece] := by
  have name : namesNothing piece = false := by
    have nonempty : p.named ≠ [] := by simp [last]
    have head := List.head_dropWhile_not namesNothing nonempty
    change namesNothing (p.named.head nonempty) = false at head
    simpa only [last, List.head_cons] using head
  have cut : (pieces p.body).reverse = (pieces p.body).reverse.takeWhile namesNothing ++
      piece :: (before.takeWhile namesNothing ++ before.dropWhile namesNothing) := by
    rw [List.takeWhile_append_dropWhile, ← last]
    exact List.takeWhile_append_dropWhile.symm
  refine ⟨(before.takeWhile namesNothing).reverse ++
    piece :: ((pieces p.body).reverse.takeWhile namesNothing).reverse, ?_, by simp, ?_⟩
  · refine List.reverse_injective (cut.trans ?_)
    simp only [List.reverse_append, List.reverse_cons, List.reverse_reverse, List.append_assoc,
      List.cons_append, List.nil_append]
  · rw [List.filter_append, List.filter_reverse, filter_takeWhile_namesNothing,
      List.filter_cons_of_pos (by simp [name]), List.filter_reverse, filter_takeWhile_namesNothing]
    rfl

/-- The shape of a parent: the anchor, and pieces of which the last one is a name. -/
structure ParentShape (p q : Path) (kept : List (List UInt8)) : Prop where
  octets_eq : q.octets = p.anchor ++ unpieces kept
  cut : ∀ piece ∈ kept, slash ∉ piece
  named : ∀ piece ∈ kept.getLast?, namesNothing piece = false
  /-- The path goes on after a slash. -/
  goesOn : kept ≠ [] → ∃ rest, p.octets = q.octets ++ slash :: rest
  /-- The names of the path are those of the parent and one more. -/
  names_eq : ∃ piece, names p.body = names (unpieces kept) ++ [.name piece]

/-- Without its last name, a path has the shape of a parent. -/
theorem parentShape_of_named {p : Path} {piece : List UInt8} {before : List (List UInt8)}
    (last : p.named = piece :: before) :
    ParentShape p ⟨p.anchor ++ unpieces (before.dropWhile namesNothing).reverse⟩
      (before.dropWhile namesNothing).reverse := by
  obtain ⟨back, all, nonempty, one⟩ := exists_pieces_of_named last
  have cut : ∀ piece ∈ (before.dropWhile namesNothing).reverse, slash ∉ piece := fun piece mem =>
    slash_not_mem_of_mem_pieces (all ▸ List.mem_append_left _ mem)
  refine ⟨rfl, cut, ?_, ?_, piece, ?_⟩
  · rw [List.getLast?_reverse]
    intro piece mem
    have head := List.head?_dropWhile_not namesNothing before
    rw [Option.mem_def.mp mem] at head
    exact head
  · intro some
    refine ⟨unpieces back, ?_⟩
    rw [List.append_assoc, ← unpieces_append some nonempty, ← all, unpieces_pieces,
      anchor_append_body]
  · rw [names_unpieces cut, names, all, List.filter_append, one, List.map_append]
    rfl

namespace ParentShape

variable {p q : Path} {kept : List (List UInt8)} (h : ParentShape p q kept)
include h

theorem unpieces_ne_nil (some : kept ≠ []) : unpieces kept ≠ [] := by
  obtain ⟨piece, more, rfl⟩ := List.exists_cons_of_ne_nil some
  cases more with
  | nil =>
      rintro rfl
      exact absurd (h.named [] rfl) (by simp [namesNothing])
  | cons second others => simp [unpieces]

theorem anchor_eq : q.anchor = p.anchor := by
  by_cases some : kept = []
  · have octets := h.octets_eq
    rw [some, unpieces, List.append_nil] at octets
    rw [← p.anchor_anchor, ← octets]
  · obtain ⟨rest, goes⟩ := h.goesOn some
    have nonempty : q.octets ≠ [] := by
      rw [h.octets_eq]
      exact List.append_ne_nil_of_right_ne_nil _ (h.unpieces_ne_nil some)
    have same := anchor_append_slash nonempty rest
    rwa [← goes, eq_comm] at same

theorem body_eq : q.body = unpieces kept := by
  rw [body, h.anchor_eq, h.octets_eq, List.drop_left]

theorem begins : q.octets <+: p.octets := by
  by_cases some : kept = []
  · rw [h.octets_eq, some, unpieces, List.append_nil, ← p.anchor_append_body]
    exact List.prefix_append _ _
  · obtain ⟨rest, goes⟩ := h.goesOn some
    rw [goes]
    exact List.prefix_append _ _

theorem components_eq : ∃ piece, p.components = q.components ++ [.name piece] := by
  obtain ⟨piece, names⟩ := h.names_eq
  refine ⟨piece, ?_⟩
  rw [components_eq_anchored, components_eq_anchored, h.anchor_eq, h.body_eq, names,
    List.append_assoc]

/-- The last piece of a parent is a name, unless the parent is an anchor alone. -/
theorem getLast?_pieces (some : kept ≠ []) :
    ∀ piece ∈ (pieces q.octets).getLast?, namesNothing piece = false := by
  have more : q.body ≠ [] := h.body_eq ▸ h.unpieces_ne_nil some
  rw [getLast?_pieces_octets more, h.body_eq, pieces_unpieces some h.cut]
  exact h.named

/-- No shorter beginning has the components of a parent. -/
theorem shortest {r : Path} (begins : r.octets <+: p.octets)
    (same : r.components = q.components) : q.octets.length ≤ r.octets.length := by
  by_cases some : kept = []
  · refine length_le_of_anchor ?_ same
    rw [h.anchor_eq, h.octets_eq, some, unpieces, List.append_nil]
  · refine Nat.le_of_not_lt fun shorter => ?_
    have proper := List.prefix_of_prefix_length_le begins h.begins (Nat.le_of_lt shorter)
    have nonempty : q.octets ≠ [] := List.ne_nil_of_length_pos (Nat.zero_lt_of_lt shorter)
    have ends := List.dropLast_concat_getLast nonempty
    have named := h.getLast?_pieces some
    rw [← ends] at named
    have more := (extent_names_concat _ _).2 named
    have front : r.octets <+: q.octets.dropLast := by
      refine List.prefix_of_prefix_length_le proper (List.dropLast_prefix _) ?_
      rw [List.length_dropLast]
      omega
    have less := Nat.lt_of_le_of_lt (extent_names_le front) more
    rw [ends, ← extent_components, ← extent_components, same] at less
    exact absurd less (Nat.lt_irrefl _)

end ParentShape

/-! ### The parent -/

/-- What `parent?` gives is the parent. -/
theorem isParent_of_parent? {p q : Path} (h : p.parent? = some q) : IsParent p q := by
  unfold parent? at h
  split at h
  · rename_i none
    split at h
    · rename_i lone
      cases h
      have components : p.components = [.here] := by
        rw [components_eq_anchored, names_eq_nil_of_named none, lone]
        rfl
      exact ⟨by simp [components], by simp [components], by rw [components]; rfl,
        List.nil_prefix, fun r _ _ => Nat.zero_le _⟩
    · cases h
  · rename_i piece before last
    cases h
    have shape := parentShape_of_named last
    obtain ⟨piece, components⟩ := shape.components_eq
    refine ⟨by simp [components], ?_, by simp [components], shape.begins,
      fun r begins same => shape.shortest begins same⟩
    rw [components]
    intro same
    have last := congrArg List.getLast? same
    simp at last

/-- Only the root and the empty path have no parent. -/
theorem parent?_eq_none_iff {p : Path} :
    p.parent? = none ↔ p.components = [] ∨ p.components = [.root] := by
  constructor
  · intro h
    have none : p.named = [] ∧ p.anchor ≠ [dot] := by
      unfold parent? at h
      split at h
      · rename_i none
        split at h
        · cases h
        · exact ⟨none, ‹_›⟩
      · cases h
    rw [components_eq_anchored, names_eq_nil_of_named none.1]
    rcases p.anchor_cases with eq | eq | eq
    · exact Or.inr (by rw [eq]; rfl)
    · exact absurd eq none.2
    · exact Or.inl (by rw [eq]; rfl)
  · intro bare
    cases h : p.parent? with
    | none => rfl
    | some q =>
        have parent := isParent_of_parent? h
        exact (bare.elim parent.nonempty parent.notRoot).elim

/-- `parent?` gives the parent, and nothing else. -/
theorem parent?_eq_some_iff {p q : Path} : p.parent? = some q ↔ IsParent p q := by
  refine ⟨isParent_of_parent?, fun parent => ?_⟩
  cases h : p.parent? with
  | none => exact ((parent?_eq_none_iff.mp h).elim parent.nonempty parent.notRoot).elim
  | some q' => rw [(isParent_of_parent? h).unique parent]

/-! ### Parents of parents -/

/-- How many components there are besides the root. -/
def depth (p : Path) : Nat :=
  (p.components.filter (· != .root)).length

/-- Taking so many parents leads from a path to another one. -/
inductive Rises : Path → Nat → Path → Prop where
  | stays {p : Path} : Rises p 0 p
  | rises {p q r : Path} {n : Nat} (parent : IsParent p q) (later : Rises q n r) :
      Rises p (n + 1) r

theorem ancestors_eq (p : Path) :
    p.ancestors = p :: (match p.parent? with
      | none => []
      | some q => q.ancestors) := by
  rw [ancestors]
  split
  · rename_i none
    simp only [none]
  · rename_i q some
    simp only [some]

/-- The ancestors of a path are its parents, in order. -/
theorem getElem?_ancestors {p q : Path} {n : Nat} :
    p.ancestors[n]? = some q ↔ Rises p n q := by
  induction n generalizing p with
  | zero =>
      rw [ancestors_eq, List.getElem?_cons_zero, Option.some.injEq]
      constructor
      · rintro rfl
        exact .stays
      · intro rises
        cases rises
        rfl
  | succ n ih =>
      rw [ancestors_eq, List.getElem?_cons_succ]
      constructor
      · intro there
        cases h : p.parent? with
        | none => simp [h] at there
        | some q' =>
            rw [h] at there
            exact .rises (isParent_of_parent? h) (ih.mp there)
      · intro rises
        cases rises with
        | rises parent later =>
            rw [parent?_eq_some_iff.mpr parent]
            exact ih.mpr later

/-- Empty pieces and single dots are passed over, two dots are not. -/
example : (ofText "./a//../b/.").ancestors.map display =
    ["./a//../b/.", "./a//..", "./a", ".", ""] := by
  cbv

end ReviewChannel.Path
