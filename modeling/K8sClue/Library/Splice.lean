import Mathlib.Algebra.Ring.Nat
import Mathlib.Data.List.Sort

/-! Replacing several disjoint spans of a text at once.
A text is a list over any alphabet, and a span is a half-open interval of its positions with
the text to put there. Splicing one span after the other from the right end is the same as
replacing all of them simultaneously, because no position left of a span moves.
-/

namespace Library

open List

/-- The positions from `start` up to but without `stop`, and their replacement. -/
structure Span (α : Type) where
  (start stop : Nat)
  text : List α
  deriving DecidableEq

namespace Span

variable {α : Type}

def Disjoint (left right : Span α) : Prop :=
  left.stop ≤ right.start ∨ right.stop ≤ left.start

/-- The order of two spans by their start, and by their stop at equal starts. -/
def Before (left right : Span α) : Prop :=
  left.start < right.start ∨ (left.start = right.start ∧ left.stop ≤ right.stop)

instance (left right : Span α) : Decidable (left.Before right) :=
  inferInstanceAs (Decidable (_ ∨ _))

instance : Std.Total (Before (α := α)) where
  total left right := by
    unfold Before
    omega

instance : IsTrans (Span α) Before where
  trans first second third := by
    unfold Before
    omega

end Span

variable {α : Type}

def splice (source : List α) (span : Span α) : List α :=
  source.take span.start ++ span.text ++ source.drop span.stop

def sortSpans (spans : List (Span α)) : List (Span α) := spans.insertionSort Span.Before

/-- All spans replaced one after the other, from right to left. -/
def spliceAll (source : List α) (spans : List (Span α)) : List α :=
  (sortSpans spans).reverse.foldl splice source

/-- All spans replaced at once: what lies between them is kept, and each span becomes its
text. The spans are from left to right, and `rest` starts at position `offset`.
-/
def replaceSpans (offset : Nat) (rest : List α) : List (Span α) → List α
  | [] => rest
  | span :: spans =>
    rest.take (span.start - offset) ++ span.text
      ++ replaceSpans span.stop (rest.drop (span.stop - offset)) spans

/-- Spans from left to right between two positions, none reaching into the next. -/
def Ordered (offset bound : Nat) : List (Span α) → Prop
  | [] => offset ≤ bound
  | span :: spans =>
    offset ≤ span.start ∧ span.start ≤ span.stop ∧ Ordered span.stop bound spans

variable {offset bound : Nat} {source : List α} {span : Span α} {spans others : List (Span α)}

theorem Ordered.le (ordered : Ordered offset bound spans) : offset ≤ bound := by
  induction spans generalizing offset with
  | nil => exact ordered
  | cons span spans ih =>
    obtain ⟨after, forward, later⟩ := ordered
    have := ih later
    omega

/-- A text that reaches beyond an interval is what lies before, in and after it. -/
theorem cut_at {offset start stop : Nat} {rest : List α} (after : offset ≤ start)
    (forward : start ≤ stop) (inside : stop ≤ offset + rest.length)
    : ∃ gap old tail,
        rest = gap ++ (old ++ tail)
        ∧ offset + gap.length = start
        ∧ start + old.length = stop := by
  refine ⟨rest.take (start - offset), (rest.drop (start - offset)).take (stop - start),
    rest.drop (stop - offset), ?_, ?_, ?_⟩
  · have dropAgain : rest.drop (stop - offset)
        = (rest.drop (start - offset)).drop (stop - start) := by
      rw [drop_drop]
      congr 1
      omega
    rw [dropAgain, take_append_drop, take_append_drop]
  · rw [length_take]
    omega
  · rw [length_take, length_drop]
    omega

theorem replaceSpans_cut {gap old tail : List α} (start : offset + gap.length = span.start)
    (stop : span.start + old.length = span.stop)
    : replaceSpans offset (gap ++ (old ++ tail)) (span :: spans)
      = gap ++ span.text ++ replaceSpans span.stop tail spans := by
  have first : span.start - offset = gap.length := by omega
  have second : span.stop - offset = (gap ++ old).length := by
    rw [length_append]
    omega
  rw [replaceSpans, first, second, ← append_assoc gap old tail, drop_left,
    append_assoc gap old tail, take_left]

theorem splice_cut {before old tail : List α} (start : before.length = span.start)
    (stop : span.start + old.length = span.stop)
    : splice (before ++ (old ++ tail)) span = before ++ span.text ++ tail := by
  have reached : span.stop = (before ++ old).length := by
    rw [length_append]
    omega
  rw [splice, ← start, take_left, reached, ← append_assoc before old tail, drop_left]

/-- Splicing from the right end replaces all spans at once.
Witness: induction over the spans; the part left of a span is still in place when its turn
comes.
-/
theorem foldr_splice {initial rest : List α}
    (ordered : Ordered initial.length (initial.length + rest.length) spans)
    : spans.foldr (fun span text => splice text span) (initial ++ rest)
      = initial ++ replaceSpans initial.length rest spans := by
  induction spans generalizing initial rest with
  | nil => rfl
  | cons span spans ih =>
    obtain ⟨after, forward, later⟩ := ordered
    obtain ⟨gap, old, tail, rfl, start, stop⟩ := cut_at after forward later.le
    have reached : (initial ++ gap ++ old).length = span.stop := by
      simp only [length_append]
      omega
    have spliced := @ih (initial ++ gap ++ old) tail (by
      simpa only [length_append, ← Nat.add_assoc, start, stop] using later)
    rw [reached] at spliced
    rw [foldr_cons, replaceSpans_cut start stop]
    simp only [← append_assoc] at spliced ⊢
    rw [spliced, append_assoc _ old, splice_cut (by rw [length_append]; exact start) stop]

/-- Spans inside a text, no two of which overlap or have the same positions. -/
structure Separate (bound : Nat) (spans : List (Span α)) : Prop where
  forward : ∀ span ∈ spans, span.start ≤ span.stop
  inside : ∀ span ∈ spans, span.stop ≤ bound
  disjoint : ∀ left ∈ spans, ∀ right ∈ spans, left ≠ right → left.Disjoint right
  distinct : (spans.map (fun span => (span.start, span.stop))).Nodup

theorem Separate.perm (separate : Separate bound spans) (reordered : spans.Perm others)
    : Separate bound others where
  forward := fun span mem => separate.forward span (reordered.mem_iff.mpr mem)
  inside := fun span mem => separate.inside span (reordered.mem_iff.mpr mem)
  disjoint := fun left inLeft right inRight =>
    separate.disjoint left (reordered.mem_iff.mpr inLeft) right (reordered.mem_iff.mpr inRight)
  distinct := (reordered.map _).nodup_iff.mp separate.distinct

theorem Separate.tail (separate : Separate bound (span :: spans)) : Separate bound spans where
  forward := fun other mem => separate.forward other (mem_cons_of_mem _ mem)
  inside := fun other mem => separate.inside other (mem_cons_of_mem _ mem)
  disjoint := fun left inLeft right inRight =>
    separate.disjoint left (mem_cons_of_mem _ inLeft) right (mem_cons_of_mem _ inRight)
  distinct := (nodup_cons.mp separate.distinct).2

/-- Separate spans that are sorted follow each other. -/
theorem Separate.ordered (separate : Separate bound spans) (sorted : spans.Pairwise Span.Before)
    (from_ : ∀ span ∈ spans, offset ≤ span.start) (below : offset ≤ bound)
    : Ordered offset bound spans := by
  induction spans generalizing offset with
  | nil => exact below
  | cons span spans ih =>
    have forward := separate.forward span mem_cons_self
    rw [pairwise_cons] at sorted
    refine ⟨from_ span mem_cons_self, forward, ih separate.tail sorted.2 ?_
      (separate.inside span mem_cons_self)⟩
    intro other mem
    have distinct := separate.distinct
    rw [map_cons, nodup_cons] at distinct
    have different : span ≠ other := by
      rintro rfl
      exact distinct.1 (mem_map_of_mem mem)
    have apart := separate.disjoint span mem_cons_self other
      (mem_cons_of_mem _ mem) different
    have before := sorted.1 other mem
    have otherForward := separate.forward other (mem_cons_of_mem _ mem)
    unfold Span.Disjoint at apart
    unfold Span.Before at before
    omega

theorem sortSpans_perm (spans : List (Span α)) : (sortSpans spans).Perm spans :=
  perm_insertionSort _ _

theorem sortSpans_ordered (separate : Separate bound spans) : Ordered 0 bound (sortSpans spans) :=
  (separate.perm (sortSpans_perm spans).symm).ordered (pairwise_insertionSort _ _)
    (fun _ _ => Nat.zero_le _) (Nat.zero_le _)

/-- Splicing separate spans one by one replaces them simultaneously. -/
theorem spliceAll_eq (separate : Separate source.length spans)
    : spliceAll source spans = replaceSpans 0 source (sortSpans spans) := by
  rw [spliceAll]
  have spliced := @foldr_splice α (sortSpans spans) [] source
    (by simpa using sortSpans_ordered separate)
  simpa using spliced

/-- The order in which separate spans are given does not matter. -/
theorem spliceAll_perm (separate : Separate source.length spans) (reordered : spans.Perm others)
    : spliceAll source spans = spliceAll source others := by
  have sameSorted : sortSpans spans = sortSpans others := by
    refine Perm.eq_of_pairwise ?_ (pairwise_insertionSort Span.Before _)
      (pairwise_insertionSort Span.Before _)
      ((sortSpans_perm spans).trans (reordered.trans (sortSpans_perm others).symm))
    intro left right inLeft inRight forth back
    have leftMember := (sortSpans_perm spans).mem_iff.mp inLeft
    have rightMember := reordered.mem_iff.mpr ((sortSpans_perm others).mem_iff.mp inRight)
    apply inj_on_of_nodup_map separate.distinct leftMember rightMember
    unfold Span.Before at forth back
    simp only [Prod.mk.injEq]
    omega
  rw [spliceAll, spliceAll, sameSorted]

namespace Span

/-- The strict order of two spans with different positions. -/
def Precedes (left right : Span α) : Prop :=
  left.start < right.start ∨ (left.start = right.start ∧ left.stop < right.stop)

instance (left right : Span α) : Decidable (left.Precedes right) :=
  inferInstanceAs (Decidable (_ ∨ _))

def size (span : Span α) : Nat := span.stop - span.start

end Span

def inserted (spans : List (Span α)) : Nat := (spans.map (fun span => span.text.length)).sum

def removed (spans : List (Span α)) : Nat := (spans.map Span.size).sum

/-- Where a span starts after all spans were replaced: shifted by those left of it. -/
def movedStart (spans : List (Span α)) (span : Span α) : Nat :=
  let before := spans.filter (fun other => other.Precedes span)
  span.start + inserted before - removed before

section Rewind

variable {ι : Type} (old : ι → Span α) (back : ι → List α)

/-- The span of an item with another replacement. -/
def respelled (item : ι) : Span α := { old item with text := back item }

/-- The place of an item's span in the new text, with the replacement to make there. -/
def rewound (spans : List (Span α)) (item : ι) : Span α :=
  {
    start := movedStart spans (old item)
    stop := movedStart spans (old item) + (old item).text.length
    text := back item }

/-- The places of items from left to right; their spans start at `offset` of the old text
and at `target` of the new one.
-/
def rewoundFrom (offset target : Nat) : List ι → List (Span α)
  | [] => []
  | item :: items =>
    let start := target + ((old item).start - offset)
    let stop := start + (old item).text.length
    { start, stop, text := back item } :: rewoundFrom (old item).stop stop items

variable {old back}

/-- The places lie in the new text, and replacing them is replacing the old spans. -/
theorem replaceSpans_rewoundFrom {offset target : Nat} {rest : List α} {items : List ι}
    (ordered : Ordered offset (offset + rest.length) (items.map old))
    : Ordered target (target + (replaceSpans offset rest (items.map old)).length)
        (rewoundFrom old back offset target items)
      ∧ replaceSpans target (replaceSpans offset rest (items.map old))
          (rewoundFrom old back offset target items)
        = replaceSpans offset rest (items.map (respelled old back)) := by
  induction items generalizing offset target rest with
  | nil => exact ⟨Nat.le_add_right _ _, rfl⟩
  | cons item items ih =>
    obtain ⟨after, forward, later⟩ := ordered
    obtain ⟨gap, gone, tail, rfl, start, stop⟩ := cut_at after forward later.le
    have tailOrdered : Ordered (old item).stop ((old item).stop + tail.length) (items.map old) := by
      simpa only [length_append, ← Nat.add_assoc, start, stop] using later
    obtain ⟨placed, replaced⟩ :=
      @ih (old item).stop (target + gap.length + (old item).text.length) tail tailOrdered
    have gapLength : (old item).start - offset = gap.length := by omega
    rw [map_cons, replaceSpans_cut start stop, rewoundFrom, gapLength]
    refine ⟨⟨Nat.le_add_right _ _, Nat.le_add_right _ _, ?_⟩, ?_⟩
    · simpa only [length_append, ← Nat.add_assoc] using placed
    · rw [append_assoc gap, replaceSpans_cut rfl rfl, replaced, map_cons,
        @replaceSpans_cut _ _ (respelled old back item) _ _ _ _ start stop]
      rfl

theorem filter_precedes {initial rest : List (Span α)}
    (sorted : (initial ++ span :: rest).Pairwise Span.Precedes)
    : (initial ++ span :: rest).filter (fun other => other.Precedes span) = initial := by
  rw [pairwise_append, pairwise_cons] at sorted
  obtain ⟨_, ⟨first, _⟩, crossing⟩ := sorted
  have kept : initial.filter (fun other => other.Precedes span) = initial := by
    rw [filter_eq_self]
    intro other mem
    exact decide_eq_true (crossing other mem span mem_cons_self)
  have dropped : (span :: rest).filter (fun other => other.Precedes span) = [] := by
    rw [filter_eq_nil_iff]
    intro other mem
    rw [decide_eq_true_eq]
    rcases mem_cons.mp mem with rfl | later
    · unfold Span.Precedes
      omega
    · have := first other later
      unfold Span.Precedes at this ⊢
      omega
  rw [filter_append, kept, dropped, append_nil]

/-- The places found from left to right are those computed from all spans.
Witness: the spans already passed are exactly those that precede the next one.
-/
theorem rewoundFrom_eq {passed items : List ι} {offset target bound : Nat}
    (sorted : ((passed ++ items).map old).Pairwise Span.Precedes)
    (ordered : Ordered offset bound (items.map old))
    (balance : target + removed (passed.map old) = offset + inserted (passed.map old))
    : rewoundFrom old back offset target items
      = items.map (rewound old back ((passed ++ items).map old)) := by
  induction items generalizing passed offset target with
  | nil => rfl
  | cons item items ih =>
    obtain ⟨after, forward, later⟩ := ordered
    have preceding := sorted
    rw [map_append] at preceding
    have moved : movedStart ((passed ++ item :: items).map old) (old item)
        = target + ((old item).start - offset) := by
      rw [movedStart, map_append, map_cons, filter_precedes preceding]
      omega
    have shifted := @ih (passed ++ [item]) (old item).stop
      (target + ((old item).start - offset) + (old item).text.length)
      (by simpa using sorted) later (by
        simp only [removed, inserted, map_append, sum_append, map_cons,
          map_nil, sum_cons, Span.size] at balance ⊢
        omega)
    rw [rewoundFrom, map_cons, rewound, moved]
    simpa using shifted

theorem movedStart_perm (reordered : spans.Perm others) (span : Span α)
    : movedStart spans span = movedStart others span := by
  have same := reordered.filter (fun other => other.Precedes span)
  simp only [movedStart, inserted, removed, (same.map _).sum_nat]

theorem rewound_perm (reordered : spans.Perm others)
    : rewound old back spans = rewound old back others := by
  funext item
  simp only [rewound, movedStart_perm reordered]

theorem Ordered.separate (ordered : Ordered offset bound spans)
    (nonempty : ∀ span ∈ spans, span.start < span.stop)
    : (∀ span ∈ spans, offset ≤ span.start) ∧ Separate bound spans
      ∧ spans.Pairwise Span.Before := by
  induction spans generalizing offset with
  | nil => exact ⟨by simp, ⟨by simp, by simp, by simp, by simp⟩, Pairwise.nil⟩
  | cons span spans ih =>
    obtain ⟨after, forward, later⟩ := ordered
    obtain ⟨from_, separate, sorted⟩ :=
      ih later (fun other mem => nonempty other (mem_cons_of_mem _ mem))
    have proper := nonempty span mem_cons_self
    refine ⟨?_, ⟨?_, ?_, ?_, ?_⟩, pairwise_cons.mpr ⟨?_, sorted⟩⟩
    · intro other mem
      rcases mem_cons.mp mem with rfl | inRest
      · exact after
      · have := from_ other inRest
        omega
    · intro other mem
      rcases mem_cons.mp mem with rfl | inRest
      · exact forward
      · exact separate.forward other inRest
    · intro other mem
      rcases mem_cons.mp mem with rfl | inRest
      · exact later.le
      · exact separate.inside other inRest
    · intro left inLeft right inRight different
      rcases mem_cons.mp inLeft with rfl | leftRest <;>
        rcases mem_cons.mp inRight with rfl | rightRest
      · exact absurd rfl different
      · exact .inl (from_ right rightRest)
      · exact .inr (from_ left leftRest)
      · exact separate.disjoint left leftRest right rightRest different
    · rw [map_cons, nodup_cons]
      refine ⟨?_, separate.distinct⟩
      intro repeated
      obtain ⟨other, inRest, equal⟩ := mem_map.mp repeated
      have := from_ other inRest
      have := (Prod.mk.inj equal).1
      omega
    · intro other mem
      have := from_ other mem
      unfold Span.Before
      omega

theorem Separate.respelled {items : List ι} (separate : Separate bound (items.map old))
    : Separate bound (items.map (respelled old back)) := by
  have positions : (items.map (Library.respelled old back)).map
        (fun span => (span.start, span.stop))
      = (items.map old).map (fun span => (span.start, span.stop)) := by
    simp only [map_map]
    rfl
  have distinct := separate.distinct
  rw [← positions] at distinct
  refine ⟨?_, ?_, ?_, distinct⟩
  · intro span mem
    obtain ⟨item, inItems, rfl⟩ := mem_map.mp mem
    exact separate.forward (old item) (mem_map_of_mem inItems)
  · intro span mem
    obtain ⟨item, inItems, rfl⟩ := mem_map.mp mem
    exact separate.inside (old item) (mem_map_of_mem inItems)
  · intro left inLeft right inRight different
    obtain ⟨first, firstMember, rfl⟩ := mem_map.mp inLeft
    obtain ⟨second, secondMember, rfl⟩ := mem_map.mp inRight
    refine separate.disjoint (old first) (mem_map_of_mem firstMember) (old second)
      (mem_map_of_mem secondMember) ?_
    intro equal
    refine different (inj_on_of_nodup_map distinct inLeft inRight ?_)
    simp only [Library.respelled, equal]

def sortItems (old : ι → Span α) (items : List ι) : List ι :=
  items.insertionSort (fun left right => (old left).Before (old right))

theorem sortItems_sorted (items : List ι)
    : ((sortItems old items).map old).Pairwise Span.Before := by
  rw [pairwise_map]
  exact pairwise_insertionSort _ _

theorem Separate.precedes (separate : Separate bound spans) (sorted : spans.Pairwise Span.Before)
    : spans.Pairwise Span.Precedes := by
  have distinct := separate.distinct
  rw [Nodup, pairwise_map] at distinct
  refine (sorted.and distinct).imp ?_
  rintro left right ⟨before, different⟩
  have apart : ¬ (left.start = right.start ∧ left.stop = right.stop) :=
    fun ⟨start, stop⟩ => different (by rw [start, stop])
  unfold Span.Before at before
  unfold Span.Precedes
  omega

/-- Splicing separate spans that are already sorted. -/
theorem spliceAll_sorted (separate : Separate source.length spans)
    (sorted : spans.Pairwise Span.Before)
    : spliceAll source spans = replaceSpans 0 source spans := by
  rw [spliceAll_eq separate, sortSpans, sorted.insertionSort_eq]

/-- Separate spans replaced by nonempty texts can be replaced once more: the places they
moved to are separate, and the outcome is that of replacing the old spans at once.
Witness: sort the items, then go from left to right.
-/
theorem spliceAll_rewound {source : List α} {items : List ι}
    (separate : Separate source.length (items.map old))
    (nonempty : ∀ item ∈ items, (old item).text ≠ [])
    : Separate (spliceAll source (items.map old)).length
        (items.map (rewound old back (items.map old)))
      ∧ spliceAll (spliceAll source (items.map old)) (items.map (rewound old back (items.map old)))
        = spliceAll source (items.map (respelled old back)) := by
  have reordered : (sortItems old items).Perm items := perm_insertionSort _ _
  have sorted := @sortItems_sorted _ _ old items
  generalize sortItems old items = ordered at reordered sorted
  have separateSorted := separate.perm (reordered.map old).symm
  have precedes := separateSorted.precedes sorted
  have inPlace : Ordered 0 (0 + source.length) (ordered.map old) := by
    rw [Nat.zero_add]
    exact separateSorted.ordered sorted (fun _ _ => Nat.zero_le _) (Nat.zero_le _)
  have places : rewoundFrom old back 0 0 ordered
      = ordered.map (rewound old back (ordered.map old)) :=
    @rewoundFrom_eq _ _ old back [] ordered 0 0 _ precedes inPlace rfl
  obtain ⟨placed, replaced⟩ := @replaceSpans_rewoundFrom _ _ old back 0 0 source ordered inPlace
  rw [places, Nat.zero_add] at placed
  rw [places] at replaced
  obtain ⟨_, separatePlaces, sortedPlaces⟩ := placed.separate (by
    intro span mem
    obtain ⟨item, inItems, rfl⟩ := mem_map.mp mem
    have := length_pos_iff.mpr (nonempty item (reordered.mem_iff.mp inItems))
    simp only [rewound]
    omega)
  have sameText : spliceAll source (items.map old) = replaceSpans 0 source (ordered.map old) := by
    rw [spliceAll_perm separate (reordered.map old).symm, spliceAll_sorted separateSorted sorted]
  have samePlaces : (ordered.map (rewound old back (ordered.map old))).Perm
      (items.map (rewound old back (items.map old))) := by
    rw [rewound_perm (reordered.map old)]
    exact reordered.map _
  rw [sameText]
  refine ⟨separatePlaces.perm samePlaces, ?_⟩
  rw [← spliceAll_perm separatePlaces samePlaces, spliceAll_sorted separatePlaces sortedPlaces,
    replaced, spliceAll_perm separate.respelled (reordered.map _).symm]
  refine (spliceAll_sorted separateSorted.respelled ?_).symm
  rw [pairwise_map] at sorted ⊢
  exact sorted

end Rewind

end Library
