import IntegerPooling.Element.Basic
import IntegerPooling.Proofs.Layout.Enumeration

/-!
# Transposed tensors

Transposing a tensor exchanges the rows and the columns of every plane and leaves images and
channels alone. In memory this moves elements by different distances along the two axes, so
transposed lists are described by the coordinates of their elements (`getElem?_transposePlanes`).
-/

namespace IntegerPooling

def Coordinates.transpose (position : Coordinates) : Coordinates :=
  { position with row := position.column, column := position.row }

namespace Layout

variable {layout : Layout} {t : ElementType} {image channel row column : Nat}

/-- The layout with rows and columns exchanged. -/
def transpose (layout : Layout) : Layout :=
  { layout with extent := layout.extent.transpose }

/-- The elements of a tensor with the rows and columns of every plane exchanged. -/
def transposePlanes (layout : Layout) (elements : List (Element t)) : List (Element t) :=
  (List.range layout.transpose.count).map fun number =>
    elements.getD (layout.placeAt (layout.transpose.coordinates number).transpose)
      (Element.lowest t)

@[simp] theorem count_transpose (layout : Layout) : layout.transpose.count = layout.count := by
  simp only [count, transpose, Spatial.transpose]
  ac_rfl

theorem Contains.transpose (contained : layout.Contains image channel row column) :
    layout.transpose.Contains image channel column row :=
  ⟨contained.image_lt, contained.channel_lt, contained.column_lt, contained.row_lt⟩

@[simp] theorem length_transposePlanes (layout : Layout) (elements : List (Element t)) :
    (layout.transposePlanes elements).length = layout.count := by
  simp [transposePlanes]

theorem getElem?_transposePlanes (elements : List (Element t))
    (contained : layout.Contains image channel row column) :
    (layout.transposePlanes elements)[layout.transpose.place image channel column row]? =
      some (elements.getD (layout.place image channel row column) (Element.lowest t)) := by
  have placeLt := place_lt_count contained.transpose
  have found : layout.transpose.coordinates (layout.transpose.place image channel column row) =
      ⟨image, column, row, channel⟩ :=
    @coordinates_placeAt layout.transpose ⟨image, column, row, channel⟩ contained.transpose
  rw [transposePlanes, List.getElem?_map, List.getElem?_range placeLt, Option.map_some, found]
  rfl

/-- A list of the right length is transposed if it has its elements at the exchanged rows and
columns. -/
theorem eq_transposePlanes {elements others : List (Element t)}
    (whole : others.length = layout.count)
    (same : ∀ image channel row column, layout.Contains image channel row column →
      ∃ value, others[layout.transpose.place image channel column row]? = some value ∧
        elements[layout.place image channel row column]? = some value) :
    others = layout.transposePlanes elements := by
  have othersWhole : others.length = layout.transpose.count := by rwa [count_transpose]
  have transposedWhole : (layout.transposePlanes elements).length = layout.transpose.count := by
    rw [length_transposePlanes, count_transpose]
  apply ext_placeAt othersWhole transposedWhole
  intro position included
  have contained : layout.Contains position.image position.channel position.column position.row :=
    Contains.transpose included
  rcases same _ _ _ _ contained with ⟨value, isOther, isElement⟩
  have isTransposed := getElem?_transposePlanes elements contained
  rw [List.getD_eq_getElem?_getD, isElement, Option.getD_some] at isTransposed
  exact isOther.trans isTransposed.symm

end Layout

end IntegerPooling
