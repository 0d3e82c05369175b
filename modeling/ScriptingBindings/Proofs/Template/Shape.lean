/-
  ScriptingBindings.Proofs.Template.Shape
  ──────────────────────────────────
  **TEMPLATES THAT FIT THEIR VALUES.**

  A template is strict: a name without a value is an error wherever it is
  used, and so is a filter or a loop over a value of the wrong kind.  Whether
  that can happen is settled by the shapes of the values alone.  The checker
  `nodesFit` goes through a template once, both branches of every choice
  included, and a template that it accepts can be filled from all values of
  these shapes:

      haveShapes shapes scope  →  nodesFit shapes nodes
        →  ∃ text, fillNodes nodes scope = .ok text
-/
import ScriptingBindings.Proofs.Success
import ScriptingBindings.Template.Basic

namespace ScriptingBindings.Template

/-! ## §1. Shapes. -/

/-- What is known of a value before a template is filled. -/
inductive Shape where
  /-- Nothing; such a value can be written and tested. -/
  | any
  /-- It is a text. -/
  | text
  /-- It is a list of values of one shape. -/
  | list (item : Shape)
  /-- It has these members in this order. -/
  | record (members : List (String × Shape))

/-- The shapes of named values. -/
abbrev Shapes := OrderedMap Shape

mutual

/-- Whether a value is of a shape. -/
def HasShape : Shape → Json → Prop
  | .any, _ => True
  | .text, v => ∃ s, v = .str s
  | .list item, v => ∃ vs, v = .arr vs ∧ ∀ w ∈ vs, HasShape item w
  | .record members, v => ∃ values, v = .obj values ∧ HaveShapes members values

/-- Whether named values are of the shapes under the same names. -/
def HaveShapes : List (String × Shape) → List (String × Json) → Prop
  | [], [] => True
  | (k, s) :: shapes, (l, v) :: values => k = l ∧ HasShape s v ∧ HaveShapes shapes values
  | _, _ => False

end

/-- A name with a shape has a value of it. -/
theorem exists_get?_of_haveShapes {shapes : Shapes} {values : OrderedMap Json} {key : String}
    {s : Shape} (h : HaveShapes shapes values) (hs : shapes.get? key = some s) :
    ∃ v, values.get? key = some v ∧ HasShape s v := by
  induction shapes generalizing values with
  | nil => exact absurd hs (by simp [OrderedMap.get?])
  | cons entry shapes ih =>
    obtain ⟨k, shape⟩ := entry
    cases values with
    | nil => exact absurd h (by simp [HaveShapes])
    | cons value values =>
      obtain ⟨l, v⟩ := value
      obtain ⟨rfl, hv, hrest⟩ := h
      by_cases hk : k = key
      · rw [OrderedMap.get?, if_pos hk] at hs
        exact ⟨v, by rw [OrderedMap.get?, if_pos hk], Option.some.inj hs ▸ hv⟩
      · rw [OrderedMap.get?, if_neg hk] at hs
        rw [OrderedMap.get?, if_neg hk]
        exact ih hrest hs

/-! ## §2. The checker. -/

/-- The shape of what a reference stands for. -/
def Ref.shape? (shapes : Shapes) (r : Ref) : Option Shape :=
  match shapes.get? r.base, r.part with
  | some s, none => some s
  | some (.record members), some part => OrderedMap.get? members part
  | _, some _ => none
  | none, none => none

/-- The shape of a value after a filter. -/
def Filter.shape? : Filter → Shape → Option Shape
  | .comment, _ => some .text
  | .indent, _ => some .text
  | .join, .list _ => some .text
  | .fourCharCode, .text => some .text
  | _, _ => none

mutual

/-- Whether a part can be filled from values of the shapes. -/
def nodeFits : Shapes → Node → Bool
  | _, .text _ => true
  | shapes, .value ref filters =>
    ((ref.shape? shapes).bind (fun s => filters.foldlM (fun s f => f.shape? s) s)).isSome
  | shapes, .when conditions body =>
    conditions.all (fun r => (r.shape? shapes).isSome) && nodesFit shapes body
  | shapes, .choose condition yes no =>
    (condition.shape? shapes).isSome && nodesFit shapes yes && nodesFit shapes no
  | shapes, .each name items body =>
    match items.shape? shapes with
    | some (.list item) => nodesFit ((name, item) :: shapes) body
    | _ => false

/-- Whether several parts can be filled from values of the shapes. -/
def nodesFit : Shapes → List Node → Bool
  | _, [] => true
  | shapes, n :: rest => nodeFits shapes n && nodesFit shapes rest

end

/-! ## §3. What the checker accepts can be filled. -/

section Fitting

variable {shapes : Shapes} {scope : Scope}

/-- A reference that has a shape stands for a value of it. -/
theorem find_of_shape? {r : Ref} {s : Shape} (h : HaveShapes shapes scope)
    (hr : r.shape? shapes = some s) : ∃ v, r.find scope = .ok v ∧ HasShape s v := by
  obtain ⟨base, part⟩ := r
  unfold Ref.shape? at hr
  unfold Ref.find
  split at hr
  next found hbase hpart =>
    obtain ⟨v, hv, hshape⟩ := exists_get?_of_haveShapes h hbase
    dsimp only at hv hpart ⊢
    subst hpart
    rw [hv]
    exact ⟨v, rfl, Option.some.inj hr ▸ hshape⟩
  next members name hbase hpart =>
    obtain ⟨v, hv, values, rfl, hvalues⟩ := exists_get?_of_haveShapes h hbase
    obtain ⟨w, hw, hshape⟩ := exists_get?_of_haveShapes hvalues hr
    dsimp only at hv hpart ⊢
    subst hpart
    rw [hv]
    refine ⟨w, ?_, hshape⟩
    simp only [Json.member?, Json.fields?, Option.bind_some, hw]
  next => exact absurd hr (by simp)
  next => exact absurd hr (by simp)

/-- A filter that has a shape gives a value of it. -/
theorem apply_of_shape? {f : Filter} {s t : Shape} {v : Json} (hv : HasShape s v)
    (hf : f.shape? s = some t) : ∃ w, f.apply v = .ok w ∧ HasShape t w := by
  unfold Filter.shape? at hf
  split at hf
  next => exact ⟨_, rfl, Option.some.inj hf ▸ ⟨_, rfl⟩⟩
  next => exact ⟨_, rfl, Option.some.inj hf ▸ ⟨_, rfl⟩⟩
  next =>
    obtain ⟨vs, rfl, -⟩ := hv
    exact ⟨_, rfl, Option.some.inj hf ▸ ⟨_, rfl⟩⟩
  next =>
    obtain ⟨text, rfl⟩ := hv
    exact ⟨_, rfl, Option.some.inj hf ▸ ⟨_, rfl⟩⟩
  next => exact absurd hf (by simp)

theorem filtered_of_shape? {filters : List Filter} {s t : Shape} {v : Json} (hv : HasShape s v)
    (hf : filters.foldlM (fun s f => f.shape? s) s = some t) :
    ∃ w, filtered filters v = .ok w := by
  unfold filtered
  induction filters generalizing s v with
  | nil => exact ⟨v, rfl⟩
  | cons f filters ih =>
    rw [List.foldlM_cons] at hf
    obtain ⟨next, hnext, hrest⟩ := Option.bind_eq_some_iff.mp hf
    obtain ⟨w, hw, hshape⟩ := apply_of_shape? hv hnext
    rw [List.foldlM_cons, hw]
    exact ih hshape hrest

theorem allHold_of_shape? {conditions : List Ref} (h : HaveShapes shapes scope)
    (hc : conditions.all (fun r => (r.shape? shapes).isSome) = true) :
    ∃ b, allHold scope conditions = .ok b := by
  induction conditions with
  | nil => exact ⟨true, rfl⟩
  | cons r conditions ih =>
    rw [List.all_cons, Bool.and_eq_true] at hc
    obtain ⟨s, hs⟩ := Option.isSome_iff_exists.mp hc.1
    obtain ⟨v, hv, -⟩ := find_of_shape? h hs
    rw [allHold, hv, ok_bind]
    cases v.isTruthy with
    | false => exact ⟨false, rfl⟩
    | true => exact ih hc.2

end Fitting

mutual

/-- A part that fits is filled: one case for each kind of part. -/
theorem exists_fillNode_of_fits : ∀ (n : Node) {shapes : Shapes} {scope : Scope},
    HaveShapes shapes scope → nodeFits shapes n = true → ∃ text, fillNode n scope = .ok text
  | .text s, _, _, _, _ => ⟨s, rfl⟩
  | .value ref filters, shapes, scope, h, hn => by
    rw [nodeFits] at hn
    obtain ⟨t, ht⟩ := Option.isSome_iff_exists.mp hn
    obtain ⟨s, hs, hfilters⟩ := Option.bind_eq_some_iff.mp ht
    obtain ⟨v, hv, hshape⟩ := find_of_shape? h hs
    obtain ⟨w, hw⟩ := filtered_of_shape? hshape hfilters
    exact ⟨w.display, by rw [fillNode, hv, ok_bind, hw]; rfl⟩
  | .when conditions body, shapes, scope, h, hn => by
    rw [nodeFits, Bool.and_eq_true] at hn
    obtain ⟨b, hb⟩ := allHold_of_shape? h hn.1
    rw [fillNode, hb, ok_bind]
    cases b with
    | false => exact ⟨"", rfl⟩
    | true => exact exists_fillNodes_of_fit body h hn.2
  | .choose condition yes no, shapes, scope, h, hn => by
    rw [nodeFits, Bool.and_eq_true, Bool.and_eq_true] at hn
    obtain ⟨s, hs⟩ := Option.isSome_iff_exists.mp hn.1.1
    obtain ⟨v, hv, -⟩ := find_of_shape? h hs
    rw [fillNode, hv, ok_bind]
    cases v.isTruthy with
    | false => exact exists_fillNodes_of_fit no h hn.2
    | true => exact exists_fillNodes_of_fit yes h hn.1.2
  | .each name items body, shapes, scope, h, hn => by
    rw [nodeFits] at hn
    split at hn
    next item hitem =>
      obtain ⟨v, hv, vs, rfl, hvs⟩ := find_of_shape? h hitem
      -- Each item gives a value of its shape to the name of the loop.
      have hall : ∀ w ∈ vs, ∃ text, fillNodes body ((name, w) :: scope) = .ok text := by
        intro w hw
        have hscope : HaveShapes ((name, item) :: shapes) ((name, w) :: scope) :=
          ⟨rfl, hvs w hw, h⟩
        exact exists_fillNodes_of_fit body hscope hn
      obtain ⟨texts, htexts⟩ := exists_mapM_of_forall hall
      have hsequence : (Json.arr vs).sequence.mapError Fault.misuse = .ok vs := rfl
      exact ⟨String.join texts, by
        rw [fillNode, hv, ok_bind, hsequence, ok_bind, htexts]; rfl⟩
    next => exact absurd hn (by simp)

/-- **Parts that fit are filled.** -/
theorem exists_fillNodes_of_fit : ∀ (ns : List Node) {shapes : Shapes} {scope : Scope},
    HaveShapes shapes scope → nodesFit shapes ns = true → ∃ text, fillNodes ns scope = .ok text
  | [], _, _, _, _ => ⟨"", rfl⟩
  | n :: rest, shapes, scope, h, hn => by
    rw [nodesFit, Bool.and_eq_true] at hn
    obtain ⟨s, hs⟩ := exists_fillNode_of_fits n h hn.1
    obtain ⟨t, ht⟩ := exists_fillNodes_of_fit rest h hn.2
    exact ⟨s ++ t, by rw [fillNodes, hs, ok_bind, ht]; rfl⟩

end

end ScriptingBindings.Template
