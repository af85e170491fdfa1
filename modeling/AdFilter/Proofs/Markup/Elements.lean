import AdFilter.Markup.Node
import Mathlib.Data.List.Nodup

/-! The elements of a page: the order in which they stand, and the elements around them. -/

namespace AdFilter

namespace Element

/-- The way to the element from the top of the page: at each level, how many nodes stand before it. -/
def way (e : Element) : List Nat := e.path.reverse

/-- The element comes before another one in its page, by the first level at which their ways part; an
element comes before all that it holds. -/
def Precedes (e other : Element) : Prop := e.way < other.way

/-- The element that stands some levels above this one. -/
def above? (e : Element) : Nat → Option Element
  | 0 => some e
  | level + 1 => e.parent?.bind (above? · level)

/-- The elements around an element are its parent and those around that. -/
theorem ancestors_eq (e : Element) :
    e.ancestors = (e.parent?.map fun parent => parent :: parent.ancestors).getD [] := by
  obtain ⟨tag, children, place⟩ := e
  -- The place is empty, or its last step has a holder or none.
  rcases place with _ | ⟨⟨before, _ | holder, after⟩, place⟩ <;> rfl

/-- The elements around an element are those that stand above it, level by level. -/
theorem getElem?_ancestors (e : Element) (level : Nat) :
    e.ancestors[level]? = e.above? (level + 1) := by
  -- What stands further above an element stands above its parent.
  induction level generalizing e with
  | zero =>
    rw [ancestors_eq, above?]
    cases e.parent? <;> rfl
  | succ level ih =>
    rw [ancestors_eq, above?]
    cases e.parent? with
    | none => rfl
    | some parent => exact ih parent

end Element

/-- The way to what holds a node of the given place. -/
def wayOf (place : List Crumb) : List Nat := (place.map (·.before.length)).reverse

mutual

/-- The elements among some siblings stand on ways that begin with that to the siblings. -/
theorem exists_way_of_mem_among (holder : Option Tag) (place : List Crumb)
    (before : List Node) : ∀ nodes : List Node, ∀ e ∈ elementsAmong holder place before nodes,
      ∃ i rest, before.length ≤ i ∧ e.way = wayOf place ++ i :: rest
  | [] => by simp [elementsAmong]
  | node :: after => by
    intro e member
    rw [elementsAmong, List.mem_append] at member
    -- What stands among later siblings has a larger place among all of them.
    rcases member with here | later
    · obtain ⟨rest, way⟩ := exists_way_of_mem_at holder place before after node e here
      exact ⟨before.length, rest, Nat.le_refl _, way⟩
    · obtain ⟨i, rest, behind, way⟩ := exists_way_of_mem_among holder place (node :: before) after e later
      exact ⟨i, rest, Nat.le_of_succ_le behind, way⟩

/-- A node and the elements below it stand on ways that begin with that to the node. -/
theorem exists_way_of_mem_at (holder : Option Tag) (place : List Crumb)
    (before after : List Node) : ∀ node : Node, ∀ e ∈ elementsAt holder place before after node,
      ∃ rest, e.way = wayOf place ++ before.length :: rest
  | .element tag children => by
    intro e member
    rw [elementsAt, List.mem_cons] at member
    rcases member with rfl | below
    · exact ⟨[], by simp [Element.way, Element.path, wayOf]⟩
    · obtain ⟨i, rest, _, way⟩ := exists_way_of_mem_among _ _ [] children e below
      exact ⟨i :: rest, by simpa [wayOf] using way⟩
  | .text _ | .comment _ | .doctype _ => by simp [elementsAt]

end

mutual

/-- The elements among some siblings come in the order of the page. -/
theorem elementsAmong_pairwise (holder : Option Tag) (place : List Crumb)
    (before : List Node) : ∀ nodes : List Node,
      (elementsAmong holder place before nodes).Pairwise Element.Precedes
  | [] => by simp [elementsAmong]
  | node :: after => by
    rw [elementsAmong, List.pairwise_append]
    -- A node comes with all below it before the siblings behind it.
    refine ⟨elementsAt_pairwise .., elementsAmong_pairwise .., fun e here other later => ?_⟩
    -- The ways part where the siblings stand.
    obtain ⟨_, way⟩ := exists_way_of_mem_at _ _ _ _ _ e here
    obtain ⟨i, _, behind, otherWay⟩ := exists_way_of_mem_among _ _ _ _ other later
    rw [Element.Precedes, way, otherWay]
    exact List.append_left_lt (List.Lex.rel behind)

/-- A node and the elements below it come in the order of the page. -/
theorem elementsAt_pairwise (holder : Option Tag) (place : List Crumb)
    (before after : List Node) : ∀ node : Node,
      (elementsAt holder place before after node).Pairwise Element.Precedes
  | .element tag children => by
    rw [elementsAt, List.pairwise_cons]
    refine ⟨fun e below => ?_, elementsAmong_pairwise ..⟩
    -- The way to an element goes through all that hold it.
    obtain ⟨i, rest, _, way⟩ := exists_way_of_mem_among _ _ [] children e below
    have shorter : wayOf (⟨before, holder, after⟩ :: place) ++ [] < e.way :=
      way ▸ List.append_left_lt (List.nil_lt_cons ..)
    rwa [List.append_nil] at shorter
  | .text _ | .comment _ | .doctype _ => by simp [elementsAt]

end

/-- The elements around those among some siblings, but for the ones among them: what holds the siblings,
and the elements around that. -/
def outerOf (holder : Option Tag) (siblings : List Node) (place : List Crumb) :
    List Element :=
  match holder with
  | none => []
  | some tag => ⟨tag, siblings, place⟩ :: Element.ancestorsOf tag siblings place

/-- Around an element stand what holds it and its siblings, and the elements around that. -/
theorem ancestors_eq_outerOf (tag : Tag) (children before after : List Node) (holder : Option Tag)
    (place : List Crumb) :
    Element.ancestors ⟨tag, children, ⟨before, holder, after⟩ :: place⟩ =
      outerOf holder (before.reverse ++ .element tag children :: after) place := by
  cases holder <;> rfl

mutual

/-- The elements around one among some siblings are among these, or stand around all of them. -/
theorem mem_among_of_mem_ancestors (holder : Option Tag) (place : List Crumb)
    (before : List Node) : ∀ nodes : List Node, ∀ e ∈ elementsAmong holder place before nodes,
      ∀ outer ∈ e.ancestors, outer ∈ elementsAmong holder place before nodes ∨
        outer ∈ outerOf holder (before.reverse ++ nodes) place
  | [] => by simp [elementsAmong]
  | node :: after => by
    intro e member outer around
    rw [elementsAmong, List.mem_append] at member ⊢
    -- With a node passed, the siblings in front are one more, but the row is the same.
    rcases member with here | later
    · exact (mem_at_of_mem_ancestors holder place before after node e here outer around).imp_left Or.inl
    · have found := mem_among_of_mem_ancestors holder place (node :: before) after e later outer around
      rw [List.reverse_cons, List.append_assoc, List.singleton_append] at found
      exact found.imp_left Or.inr

/-- The elements around a node or one below it are among these, or stand around the node. -/
theorem mem_at_of_mem_ancestors (holder : Option Tag) (place : List Crumb)
    (before after : List Node) : ∀ node : Node, ∀ e ∈ elementsAt holder place before after node,
      ∀ outer ∈ e.ancestors, outer ∈ elementsAt holder place before after node ∨
        outer ∈ outerOf holder (before.reverse ++ node :: after) place
  | .element tag children => by
    intro e member outer around
    rw [elementsAt, List.mem_cons] at member
    rcases member with rfl | below
    · rw [ancestors_eq_outerOf] at around
      exact Or.inr around
    · rw [elementsAt, List.mem_cons]
      rcases mem_among_of_mem_ancestors _ _ [] children e below outer around with inside | beyond
      · exact Or.inl (Or.inr inside)
      · -- Around the children stand the node itself and what stands around it.
        rcases List.mem_cons.mp beyond with same | further
        · exact Or.inl (Or.inl same)
        · exact Or.inr (ancestors_eq_outerOf .. ▸ further)
  | .text _ | .comment _ | .doctype _ => by simp [elementsAt]

end

namespace Page

variable {page : Page} {e other : Element}

/-- The elements of a page come in its order. -/
theorem elements_pairwise (page : Page) : page.elements.Pairwise Element.Precedes :=
  elementsAmong_pairwise ..

/-- An element of a page is told from all others by where it stands. -/
theorem eq_of_path_eq (inside : e ∈ page.elements) (also : other ∈ page.elements)
    (same : e.path = other.path) : e = other := by
  -- No way comes before itself, so no two of the elements share one.
  have distinct : (page.elements.map Element.path).Nodup := by
    rw [List.Nodup, List.pairwise_map]
    refine page.elements_pairwise.imp fun precedes equal => ?_
    rw [Element.Precedes, Element.way, Element.way, equal] at precedes
    exact List.lt_irrefl _ precedes
  exact List.inj_on_of_nodup_map distinct inside also same

/-- The elements around one of a page are of that page. -/
theorem mem_elements_of_mem_ancestors (inside : e ∈ page.elements) (around : other ∈ e.ancestors) :
    other ∈ page.elements := by
  rcases mem_among_of_mem_ancestors none [] [] page.nodes e inside other around with found | beyond
  · exact found
  -- Nothing holds the nodes at the top of a page.
  · cases beyond

end Page

end AdFilter
