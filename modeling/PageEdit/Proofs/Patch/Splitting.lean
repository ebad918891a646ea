import PageEdit.Proofs.Patch.Answers
import PageEdit.Proofs.Text.Words

/-!
# Batches split into patches and rejections

Each item of a batch is judged by itself: the patches are those that the items are, and the rejections those that the
items get at their places. So a batch falls into two parts that lose nothing, and what becomes of an item does not
depend on its neighbours but for the place that its rejection names.

* `validateFrom_eq`: the two parts of a batch.
* `validateBatch_append`: batches one after the other.
* `splitsInto_validateBatch`: which items are patches and which are rejected.
* `Response.ofText_eq_page`: what an answer is that is a page.
* `batches_are_split_without_loss`: batches, and the answers that bring them.
-/

namespace PageEdit

/-! ## The two parts of a batch -/

/-- The patch that an item is, if it is a sound one. -/
def accepted? (item : Json.Value) : Option Patch := (readItem item).toOption

/-- The rejection of an item at a place, if it is no sound patch. -/
def rejection? (item : Json.Value) (index : Nat) : Option Rejection :=
  match readItem item with
  | .ok _ => none
  | .error cause => some ⟨index, (item.get? "selector").bind Json.Value.asText?, cause⟩

theorem rejection?_eq_some_iff {item : Json.Value} {index : Nat} {r : Rejection} :
    rejection? item index = some r ↔ r.index = index ∧
      r.selector = (item.get? "selector").bind Json.Value.asText? ∧ readItem item = .error r.cause := by
  obtain ⟨i, selector, cause⟩ := r
  cases hitem : readItem item with
  | ok p => simp [rejection?, hitem]
  | error fault =>
    simp only [rejection?, hitem, Option.some.injEq, Rejection.mk.injEq, Except.error.injEq]
    constructor
    · rintro ⟨rfl, rfl, rfl⟩
      exact ⟨rfl, rfl, rfl⟩
    · rintro ⟨rfl, rfl, rfl⟩
      exact ⟨rfl, rfl, rfl⟩

/-- The items are judged each by itself. -/
theorem validateFrom_eq (index : Nat) (items : List Json.Value) : validateFrom index items =
    (items.filterMap accepted?, (items.zipIdx index).filterMap fun x => rejection? x.1 x.2) := by
  induction items generalizing index with
  | nil => rfl
  | cons item rest ih =>
    rw [validateFrom, ih, List.zipIdx_cons, List.filterMap_cons, List.filterMap_cons]
    cases hitem : readItem item <;> simp [hitem, accepted?, rejection?, Except.toOption]

/-- A rejection of an item that stands further behind. -/
def Rejection.later (offset : Nat) (r : Rejection) : Rejection := { r with index := offset + r.index }

theorem rejection?_later (item : Json.Value) (offset index : Nat) :
    rejection? item (offset + index) = (rejection? item index).map (.later offset) := by
  cases hitem : readItem item <;> simp [rejection?, hitem, Rejection.later]

theorem validateBatch_append (xs ys : List Json.Value) : validateBatch (xs ++ ys) =
    ((validateBatch xs).1 ++ (validateBatch ys).1,
      (validateBatch xs).2 ++ (validateBatch ys).2.map (.later xs.length)) := by
  have hlater : (ys.zipIdx xs.length).filterMap (fun x => rejection? x.1 x.2) =
      (ys.zipIdx.filterMap fun x => rejection? x.1 x.2).map (.later xs.length) := by
    rw [List.zipIdx_eq_map_add, List.filterMap_map, List.map_filterMap]
    refine congrArg (List.filterMap · ys.zipIdx) (funext fun x => ?_)
    exact rejection?_later x.1 xs.length x.2
  simp only [validateBatch, validateFrom_eq, List.filterMap_append, List.zipIdx_append, Nat.zero_add, hlater]

/-! ## Which items are patches -/

theorem readItem_eq_ok_iff {item : Json.Value} {p : Patch} :
    readItem item = .ok p ↔ Patch.decode item = .ok p ∧ p.check = .ok () := by
  rw [readItem]
  constructor
  · intro h
    split at h
    · cases h
    · next q hq =>
      split at h
      · next hcheck =>
        cases h
        exact ⟨hq, hcheck⟩
      · cases h
  · rintro ⟨hdecode, hcheck⟩
    simp only [hdecode, hcheck]

theorem accepted?_eq_some_iff {item : Json.Value} {p : Patch} :
    accepted? item = some p ↔ Patch.decode item = .ok p ∧ p.check = .ok () := by
  rw [← readItem_eq_ok_iff, accepted?]
  cases readItem item <;> simp [Except.toOption]

/-- The places of the rejected items of a batch. -/
def rejectedPlaces (rejected : List Rejection) : List Nat := rejected.map (·.index)

/-- Whether a batch falls into these patches and these rejections: each of its places is that of a rejection or of a
patch. The rejections come in the order of their places, each with the cause that its item gives, which is no patch or
not a sound one; the patches are sound, and what the items at the other places are read as, in their order. -/
structure SplitsInto (items : List Json.Value) (accepted : List Patch) (rejected : List Rejection) : Prop where
  increasing : (rejectedPlaces rejected).Pairwise (· < ·)
  accepted_eq : (items.zipIdx.filter fun x => x.2 ∉ rejectedPlaces rejected).map (fun x => Patch.decode x.1) =
    accepted.map .ok
  sound : ∀ p ∈ accepted, p.check = .ok ()
  rejected_eq : ∀ r ∈ rejected, ∃ item, items[r.index]? = some item ∧ readItem item = .error r.cause ∧
    ∀ p, Patch.decode item = .ok p → p.check ≠ .ok ()

theorem mem_rejected_iff {items : List Json.Value} {r : Rejection} :
    r ∈ (validateBatch items).2 ↔ ∃ item, items[r.index]? = some item ∧
      r.selector = (item.get? "selector").bind Json.Value.asText? ∧ readItem item = .error r.cause := by
  simp only [validateBatch, validateFrom_eq, List.mem_filterMap, Prod.exists, List.mem_zipIdx_iff_getElem?,
    rejection?_eq_some_iff]
  constructor
  · rintro ⟨item, index, hitem, rfl, hselector, hcause⟩
    exact ⟨item, hitem, hselector, hcause⟩
  · rintro ⟨item, hitem, hselector, hcause⟩
    exact ⟨item, r.index, hitem, rfl, hselector, hcause⟩

/-- The item at a place is rejected exactly if it is no sound patch. -/
theorem mem_rejectedPlaces_iff {items : List Json.Value} {item : Json.Value} {i : Nat} (hitem : items[i]? = some item) :
    i ∈ rejectedPlaces (validateBatch items).2 ↔ accepted? item = none := by
  rw [rejectedPlaces, List.mem_map]
  constructor
  · rintro ⟨r, hr, rfl⟩
    obtain ⟨item', hitem', -, hcause⟩ := mem_rejected_iff.mp hr
    obtain rfl : item' = item := Option.some.inj (hitem'.symm.trans hitem)
    rw [accepted?, hcause]
    rfl
  · intro h
    cases hread : readItem item with
    | ok p =>
      rw [accepted?, hread] at h
      cases h
    | error cause =>
      exact ⟨⟨i, _, cause⟩, mem_rejected_iff.mpr ⟨item, hitem, rfl, hread⟩, rfl⟩

theorem pairwise_rejectedPlaces (items : List Json.Value) :
    (rejectedPlaces (validateBatch items).2).Pairwise (· < ·) := by
  rw [rejectedPlaces, List.pairwise_map, validateBatch, validateFrom_eq]
  refine (Order.pairwise_zipIdx items).filterMap _ fun x y hlt r hr r' hr' => ?_
  rw [(rejection?_eq_some_iff.mp hr).1, (rejection?_eq_some_iff.mp hr').1]
  exact hlt

/-- What the items are read as that are sound patches. -/
theorem map_decode_accepted (items : List Json.Value) :
    (items.filter fun item => (accepted? item).isSome).map Patch.decode = (items.filterMap accepted?).map .ok := by
  induction items with
  | nil => rfl
  | cons item rest ih =>
    rw [List.filter_cons, List.filterMap_cons]
    cases haccepted : accepted? item with
    | none => exact ih
    | some p =>
      have hdecode := (accepted?_eq_some_iff.mp haccepted).1
      rw [Option.isSome_some, if_pos rfl, List.map_cons, List.map_cons, hdecode, ih]

theorem splitsInto_validateBatch (items : List Json.Value) :
    SplitsInto items (validateBatch items).1 (validateBatch items).2 := by
  refine ⟨pairwise_rejectedPlaces items, ?_, fun p hp => ?_, fun r hr => ?_⟩
  · have hfilter : (items.zipIdx.filter fun x => x.2 ∉ rejectedPlaces (validateBatch items).2) =
        items.zipIdx.filter fun x => (accepted? x.1).isSome := by
      refine List.filter_congr fun x hx => ?_
      have hplace := mem_rejectedPlaces_iff (List.mem_zipIdx_iff_getElem?.mp hx)
      cases haccepted : accepted? x.1 <;> simp [hplace, haccepted]
    have hfirst : (items.zipIdx.filter fun x => (accepted? x.1).isSome).map (fun x => Patch.decode x.1) =
        ((items.zipIdx.map Prod.fst).filter fun item => (accepted? item).isSome).map Patch.decode := by
      rw [List.filter_map, List.map_map]
      rfl
    rw [hfilter, hfirst, List.zipIdx_map_fst, map_decode_accepted, validateBatch, validateFrom_eq]
  · rw [validateBatch, validateFrom_eq, List.mem_filterMap] at hp
    obtain ⟨item, -, hitem⟩ := hp
    exact (accepted?_eq_some_iff.mp hitem).2
  · obtain ⟨item, hitem, -, hcause⟩ := mem_rejected_iff.mp hr
    refine ⟨item, hitem, hcause, fun p hdecode hcheck => ?_⟩
    rw [readItem_eq_ok_iff.mpr ⟨hdecode, hcheck⟩] at hcause
    cases hcause

/-! ## Answers -/

theorem trimChars_unfence (s : List Char) : Text.trimChars (unfence s) = unfence s := by
  rw [unfence]
  split <;> exact Text.trimChars_trimChars _

/-- A page that is an answer is trimmed and begins with a tag or the like. -/
theorem Response.ofText_eq_page {text page : String} (h : Response.ofText text = .page page) :
    Text.trim page = page ∧ page.toList.head? = some '<' := by
  simp only [Response.ofText] at h
  split at h
  · split at h <;> cases h
  · next rest hbody =>
    cases h
    rw [Text.trim, String.toList_ofList, trimChars_unfence, hbody]
    exact ⟨rfl, rfl⟩
  · cases h

/-- A batch is split without loss into sound patches and rejections, and of batches one after the other each is split
as it is by itself. An answer is a page, trimmed and with `<` at its beginning, or it brings a batch: if it says why it
could not be read, then nothing else, and otherwise the two parts of the items in its envelope. -/
theorem batches_are_split_without_loss :
    (∀ items, SplitsInto items (validateBatch items).1 (validateBatch items).2) ∧
      (∀ xs ys, validateBatch (xs ++ ys) =
        ((validateBatch xs).1 ++ (validateBatch ys).1,
          (validateBatch xs).2 ++ (validateBatch ys).2.map (.later xs.length))) ∧
      ∀ text,
        (∃ page, Response.ofText text = .page page ∧ Text.trim page = page ∧ page.toList.head? = some '<') ∨
        ∃ batch, Response.ofText text = .patches batch ∧
          (batch.fault.isSome = true → batch.patches = [] ∧ batch.rejected = [] ∧ batch.summary = none) ∧
          (batch.fault = none → (∀ p ∈ batch.patches, p.check = .ok ()) ∧
            ∃ items, envelopeItems? text = some items ∧ SplitsInto items batch.patches batch.rejected) := by
  refine ⟨splitsInto_validateBatch, validateBatch_append, fun text => ?_⟩
  cases htext : Response.ofText text with
  | page page => exact .inl ⟨page, rfl, Response.ofText_eq_page htext⟩
  | patches batch =>
    refine .inr ⟨batch, rfl, ?_⟩
    obtain ⟨items, hitems, hfault, hbatch⟩ | ⟨-, hfault, hpatches, hrejected, hsummary⟩ :=
      Response.ofText_eq_patches htext
    · have hsplits := splitsInto_validateBatch items
      rw [hbatch] at hsplits
      rw [hfault]
      exact ⟨nofun, fun _ => ⟨hsplits.sound, items, hitems, hsplits⟩⟩
    · refine ⟨fun _ => ⟨hpatches, hrejected, hsummary⟩, fun hnone => ?_⟩
      rw [hnone] at hfault
      cases hfault

end PageEdit
