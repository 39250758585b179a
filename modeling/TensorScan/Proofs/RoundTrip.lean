import Mathlib
import TensorScan.Proofs.Representation

set_option autoImplicit false

/-! # Writing elements and reading them

Elements go into a tensor as one list of bytes, and come out of it one piece of bytes after another.
Neither way loses anything. What was written is read, bit by bit, also after the tensor was
reshaped; this is true of every list of elements, since only their number is compared with the shape
(`Tensor.exists_ofWords`). And what is read from a tensor makes the same tensor again when it is
written: no byte may be left over for this, so it needs the tensor to be well-formed
(`Tensor.WellFormed.ofWords_words`).

A tensor without dimensions may be written and read by its one element too; both are the same as
writing and reading a list of one (`Tensor.ofWords_singleton`, `Tensor.WellFormed.words_item`).
Everything is put together in `Tensor.roundTrip`.
-/

namespace TensorScan

namespace Tensor

variable {t r : Tensor} {d : DType}

/-! ## What was written is read -/

/-- Elements can be written if the shape asks for as many. -/
theorem exists_ofWords {words : List (Word d)} {shape : Shape} :
    (∃ t, ofWords d words shape = .ok t) ↔ shape.elementCount = .ok words.length := by
  rw [Shape.elementCount_eq_ok]
  constructor
  · rintro ⟨t, h⟩
    exact (ofWords_eq_ok.1 h).1
  · intro h
    exact ⟨_, ofWords_eq_ok.2 ⟨h, rfl⟩⟩

/-- Reshaping, however often, does not change what is read, also from bytes that do not fit the
shape. -/
theorem words_of_reshapesTo (h : Relation.ReflTransGen ReshapesTo t r) (d : DType) :
    r.words d = t.words d := by
  induction h with
  | refl => rfl
  | tail _ hstep ih =>
      obtain ⟨shape, hshape⟩ := hstep
      obtain ⟨_, rfl⟩ := reshape_eq_ok.1 hshape
      rw [← ih]
      rfl

/-! ## One element -/

/-- A list of one element without dimensions is written like the element. -/
theorem ofWords_singleton (d : DType) (w : Word d) :
    ofWords d [w] Shape.scalar = .ok (ofWord d w) := by
  rw [ofWords_eq_ok]
  refine ⟨rfl, ?_⟩
  simp [ofWord, bytesOfWords]

/-- The element that is read from a tensor without dimensions is the only one. -/
theorem WellFormed.words_item (h : t.WellFormed) (hshape : t.shape = []) :
    ∃ w, t.words t.dtype = .ok [w] ∧ t.item t.dtype = .ok w := by
  obtain ⟨w, hitem⟩ := h.exists_item hshape
  refine ⟨w, ?_, hitem⟩
  have hwritten := words_ofWords (ofWords_singleton t.dtype w)
  rwa [← item_eq_ok.1 hitem] at hwritten

/-! ## Round trips -/

/-- Two well-formed tensors are the same when their shapes and their elements are. -/
theorem WellFormed.eq_iff {s : Tensor} (hs : s.WellFormed) (ht : t.WellFormed) :
    s = t ↔ s.shape = t.shape ∧ s.dtype = t.dtype ∧
      ∃ words, s.words s.dtype = .ok words ∧ t.words s.dtype = .ok words := by
  constructor
  · rintro rfl
    exact ⟨rfl, rfl, _, s.words_eq, s.words_eq⟩
  · rintro ⟨hshape, _, words, hwords, hwords'⟩
    exact hs.eq_of_words ht hshape hwords hwords'

/-- **Writing and reading undo each other.** Any elements can be written that are as many as the
shape asks for, and the same bits are read again, from the tensor and from every tensor that it is
reshaped to. Reading as another element type is refused; reading one element is refused before that
if there are dimensions. What is read from an obtainable tensor makes the same tensor when it is
written, and the one element of a tensor without dimensions is read and written in both ways alike.
So two obtainable tensors are the same if they agree in shape, element type and the bits of their
elements. -/
theorem roundTrip :
    (∀ (d : DType) (words : List (Word d)) (shape : Shape),
      ((∃ t, ofWords d words shape = .ok t) ↔ shape.elementCount = .ok words.length) ∧
      ∀ t r, ofWords d words shape = .ok t → Relation.ReflTransGen ReshapesTo t r →
        r.words d = .ok words) ∧
    (∀ (t : Tensor) (d : DType),
      (t.dtype ≠ d → t.words d = .error (.dtypeMismatch d t.dtype)) ∧
      (t.shape ≠ [] → t.item d = .error (.shapeMismatch [] t.shape)) ∧
      (t.shape = [] → t.dtype ≠ d → t.item d = .error (.dtypeMismatch d t.dtype))) ∧
    (∀ t : Tensor, t.Obtainable →
      ∃ words, t.words t.dtype = .ok words ∧ ofWords t.dtype words t.shape = .ok t ∧
        (t.shape = [] → ∃ w, words = [w] ∧ t.item t.dtype = .ok w)) ∧
    (∀ (d : DType) (w : Word d), ofWords d [w] [] = .ok (ofWord d w)) ∧
    ∀ s t : Tensor, s.Obtainable → t.Obtainable →
      (s = t ↔ s.shape = t.shape ∧ s.dtype = t.dtype ∧
        ∃ words, s.words s.dtype = .ok words ∧ t.words s.dtype = .ok words) := by
  refine ⟨?_, ?_, ?_, ofWords_singleton, ?_⟩
  · intro d words shape
    refine ⟨exists_ofWords, fun t r hmade hreshapes => ?_⟩
    rw [words_of_reshapesTo hreshapes]
    exact words_ofWords hmade
  · intro t d
    exact ⟨words_of_ne, item_of_shape, item_of_ne⟩
  · intro t ht
    have hwell := ht.wellFormed
    refine ⟨_, t.words_eq, hwell.ofWords_words t.words_eq, fun hshape => ?_⟩
    obtain ⟨w, hwords, hitem⟩ := hwell.words_item hshape
    exact ⟨w, Except.ok.inj (t.words_eq.symm.trans hwords), hitem⟩
  · intro s t hs ht
    exact hs.wellFormed.eq_iff ht.wellFormed

/-- A signaling NaN and a negative zero are read as they were written, also from a column. Running
totals make the same tensor again, and a negative integer is not read as a wider one. -/
theorem roundTrip_oddBits :
    (∃ t, ofWords .f32 [0x7fa00001, 0x80000000] [2] = .ok t ∧
      (∃ column, t.reshape [2, 1] = .ok column ∧
        column.words .f32 = .ok [0x7fa00001, 0x80000000]) ∧
      t.item .i64 = .error (.shapeMismatch [] [2])) ∧
    (∃ words, runningTotals.words .i64 = .ok words ∧
      ofWords .i64 words [2, 2] = .ok runningTotals) ∧
    (ofWord .i32 (-1)).item .i64 = .error (.dtypeMismatch .i64 .i32) ∧
    ofWord .i32 (-1) ≠ ofWord .i32 1 := by
  obtain ⟨hwritten, hrefused, hread, _, heq⟩ := roundTrip
  have hscalar : ∀ w : Word .i32, (ofWord .i32 w).Obtainable := fun w =>
    Obtainable.built (Built.ofWord .i32 w)
  refine ⟨?_, ?_, ?_, ?_⟩
  · obtain ⟨hmakes, hreads⟩ := hwritten .f32 [0x7fa00001, 0x80000000] [2]
    obtain ⟨t, hmade⟩ := hmakes.2 rfl
    obtain rfl := (ofWords_eq_ok.1 hmade).2
    have hcolumn : reshape ⟨[2], .f32, bytesOfWords .f32 [0x7fa00001, 0x80000000]⟩ [2, 1] =
        .ok ⟨[2, 1], .f32, bytesOfWords .f32 [0x7fa00001, 0x80000000]⟩ := by
      decide +kernel
    have hstep : Relation.ReflTransGen ReshapesTo _ _ :=
      Relation.ReflTransGen.single ⟨[2, 1], hcolumn⟩
    exact ⟨_, hmade, ⟨_, hcolumn, hreads _ _ hmade hstep⟩,
      (hrefused _ .i64).2.1 (List.cons_ne_nil 2 [])⟩
  · obtain ⟨words, hwords, hmade, _⟩ := hread runningTotals runningTotals_obtainable
    exact ⟨words, hwords, hmade⟩
  · exact (hrefused (ofWord .i32 (-1)) .i64).2.2 rfl (by decide)
  · rw [ne_eq, heq _ _ (hscalar _) (hscalar _)]
    rintro ⟨_, _, words, hwords, hwords'⟩
    have hminus : [-1] = words := Except.ok.inj hwords
    have hone : [1] = words := Except.ok.inj hwords'
    exact absurd (hminus.trans hone.symm) (by decide)

end Tensor

end TensorScan
