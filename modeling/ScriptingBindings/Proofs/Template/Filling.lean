/-
  ScriptingBindings.Proofs.Template.Filling
  ──────────────────────────────────
  **THE TEXT OF A TEMPLATE, PART BY PART.**

  The text of a list of parts is made of the texts of its parts.  So a piece of
  text that is written by a few neighbours in a template can be found in what
  is filled from it, and pieces that stand in order in the template stand in
  order in the text.
-/
import ScriptingBindings.Proofs.Success
import ScriptingBindings.Proofs.Text.Pieces
import ScriptingBindings.Template.Basic

namespace ScriptingBindings.Template

open Text

/-! ## §1. Filling a list of parts. -/

theorem fillNodes_cons_eq_ok {n : Node} {rest : List Node} {scope : Scope} {text : String} :
    fillNodes (n :: rest) scope = .ok text ↔
      ∃ s t, fillNode n scope = .ok s ∧ fillNodes rest scope = .ok t ∧ text = s ++ t := by
  simp only [fillNodes, bind_eq_ok, pure_eq_ok, Except.ok.injEq]
  constructor
  · rintro ⟨s, hs, t, ht, rfl⟩
    exact ⟨s, t, hs, ht, rfl⟩
  · rintro ⟨s, t, hs, ht, rfl⟩
    exact ⟨s, hs, t, ht, rfl⟩

/-- The text of two lists of parts is that of the first followed by that of the second. -/
theorem fillNodes_append_eq_ok {front back : List Node} {scope : Scope} {text : String} :
    fillNodes (front ++ back) scope = .ok text ↔
      ∃ s t, fillNodes front scope = .ok s ∧ fillNodes back scope = .ok t ∧ text = s ++ t := by
  induction front generalizing text with
  | nil => simp [fillNodes]
  | cons n front ih =>
    simp only [List.cons_append, fillNodes_cons_eq_ok, ih]
    constructor
    · rintro ⟨s, _, hs, ⟨s', t, hs', ht, rfl⟩, rfl⟩
      exact ⟨s ++ s', t, ⟨s, s', hs, hs', rfl⟩, ht, String.append_assoc.symm⟩
    · rintro ⟨_, t, ⟨s, s', hs, hs', rfl⟩, ht, rfl⟩
      exact ⟨s, s' ++ t, hs, ⟨s', t, hs', ht, rfl⟩, String.append_assoc⟩

/-- The text of a part that repeats is made of one text for each item. -/
theorem fillNode_each_eq_ok {name : String} {items : Ref} {body : List Node} {scope : Scope}
    {vs : List Json} {text : String} (hv : items.find scope = .ok (.arr vs)) :
    fillNode (.each name items body) scope = .ok text ↔
      ∃ texts, List.Forall₂ (fun v s => fillNodes body ((name, v) :: scope) = .ok s) vs texts ∧
        text = String.join texts := by
  have hsequence : (Json.arr vs).sequence.mapError Fault.misuse = .ok vs := rfl
  simp only [fillNode, hv, ok_bind, hsequence, bind_eq_ok, pure_eq_ok, Except.ok.injEq,
    mapM_eq_ok]
  constructor
  · rintro ⟨texts, htexts, rfl⟩
    exact ⟨texts, htexts, rfl⟩
  · rintro ⟨texts, htexts, rfl⟩
    exact ⟨texts, htexts, rfl⟩

/-! ## §2. Texts with pieces. -/

/-- A text has pieces in order, none of them overlapping the next. -/
def Shows (text : String) (pieces : List String) : Prop :=
  InOrder text.toList (pieces.map String.toList)

namespace Shows

variable {pieces more : List String}

theorem nil (text : String) : Shows text [] := InOrder.nil _

theorem prepend {text : String} (h : Shows text pieces) (front : String) :
    Shows (front ++ text) pieces := by
  unfold Shows
  rw [String.toList_append]
  exact InOrder.prepend h front.toList

theorem append {s t : String} (hs : Shows s pieces) (ht : Shows t more) :
    Shows (s ++ t) (pieces ++ more) := by
  unfold Shows
  rw [String.toList_append, List.map_append]
  exact InOrder.append hs ht

theorem cons {text : String} (h : Shows text pieces) (piece : String) :
    Shows (piece ++ text) (piece :: pieces) := by
  unfold Shows
  rw [String.toList_append]
  exact InOrder.cons piece.toList h

/-- Texts that are put together have the pieces of each of them in order. -/
theorem join {texts : List String} {pss : List (List String)}
    (h : List.Forall₂ Shows texts pss) : Shows (String.join texts) pss.flatten := by
  induction h with
  | nil => exact nil _
  | cons hts _ ih =>
    rw [String.join_cons, List.flatten_cons]
    exact hts.append ih

end Shows

/-! ## §3. Pieces of templates. -/

section Templates

variable {scope : Scope} {text : String} {nodes rest : List Node} {pieces more : List String}

/-- The first parts of a template may be passed over. -/
theorem shows_drop (n : Nat) (h : fillNodes nodes scope = .ok text)
    (hrest : ∀ t, fillNodes (nodes.drop n) scope = .ok t → Shows t pieces) : Shows text pieces := by
  rw [← List.take_append_drop n nodes] at h
  obtain ⟨s, t, -, ht, rfl⟩ := fillNodes_append_eq_ok.mp h
  exact (hrest t ht).prepend s

/-- A piece of a fixed text. -/
theorem shows_text {s : String} (lead piece tail : String)
    (h : fillNodes (.text s :: rest) scope = .ok text) (hs : s = lead ++ piece ++ tail)
    (hrest : ∀ u, fillNodes rest scope = .ok u → Shows u pieces) :
    Shows text (piece :: pieces) := by
  obtain ⟨_, u, hfirst, hu, rfl⟩ := fillNodes_cons_eq_ok.mp h
  rw [← Except.ok.inj hfirst, hs]
  have hpiece := (((hrest u hu).prepend tail).cons piece).prepend lead
  simpa only [String.append_assoc] using hpiece

/-- A value between two fixed texts makes a piece with the end of the first and the start of the
second. -/
theorem shows_cons {s t name : String} {value : Node} (lead before after tail : String)
    (h : fillNodes (.text s :: value :: .text t :: rest) scope = .ok text)
    (hs : s = lead ++ before) (ht : t = after ++ tail) (hvalue : fillNode value scope = .ok name)
    (hrest : ∀ u, fillNodes rest scope = .ok u → Shows u pieces) :
    Shows text ((before ++ name ++ after) :: pieces) := by
  obtain ⟨_, u, hfirst, hu, rfl⟩ := fillNodes_cons_eq_ok.mp h
  obtain ⟨_, v, hsecond, hv, rfl⟩ := fillNodes_cons_eq_ok.mp hu
  obtain ⟨_, w, hthird, hw, rfl⟩ := fillNodes_cons_eq_ok.mp hv
  rw [hvalue] at hsecond
  rw [← Except.ok.inj hfirst, ← Except.ok.inj hsecond, ← Except.ok.inj hthird, hs, ht]
  have hpiece := (((hrest w hw).prepend tail).cons (before ++ name ++ after)).prepend lead
  simpa only [String.append_assoc] using hpiece

/-- A part that appears under a condition has its pieces under it. -/
theorem shows_when {r : Ref} {v : Json} {body : List Node}
    (h : fillNodes (.when [r] body :: rest) scope = .ok text) (hr : r.find scope = .ok v)
    (hbody : v.isTruthy = true → ∀ t, fillNodes body scope = .ok t → Shows t pieces)
    (hrest : ∀ t, fillNodes rest scope = .ok t → Shows t more) :
    Shows text ((if v.isTruthy then pieces else []) ++ more) := by
  obtain ⟨s, t, hs, ht, rfl⟩ := fillNodes_cons_eq_ok.mp h
  refine Shows.append ?_ (hrest t ht)
  simp only [fillNode, allHold, hr, ok_bind] at hs
  cases hv : v.isTruthy with
  | true =>
    rw [hv] at hs
    exact hbody hv s hs
  | false => exact .nil s

/-- One of two parts has its pieces, whichever it is. -/
theorem shows_choose {r : Ref} {v : Json} {yes no : List Node}
    (h : fillNodes (.choose r yes no :: rest) scope = .ok text) (hr : r.find scope = .ok v)
    (hyes : v.isTruthy = true → ∀ t, fillNodes yes scope = .ok t → Shows t pieces)
    (hno : v.isTruthy = false → ∀ t, fillNodes no scope = .ok t → Shows t pieces)
    (hrest : ∀ t, fillNodes rest scope = .ok t → Shows t more) : Shows text (pieces ++ more) := by
  obtain ⟨s, t, hs, ht, rfl⟩ := fillNodes_cons_eq_ok.mp h
  refine Shows.append ?_ (hrest t ht)
  simp only [fillNode, hr, ok_bind] at hs
  cases hv : v.isTruthy with
  | true =>
    rw [hv] at hs
    exact hyes hv s hs
  | false =>
    rw [hv] at hs
    exact hno hv s hs

/-- A part that repeats has its pieces for each item. -/
theorem shows_each {α : Type} {name : String} {items : Ref} {body : List Node} {as : List α}
    {value : α → Json} {piece : α → List String}
    (h : fillNodes (.each name items body :: rest) scope = .ok text)
    (hitems : items.find scope = .ok (.arr (as.map value)))
    (hbody : ∀ a t, fillNodes body ((name, value a) :: scope) = .ok t → Shows t (piece a))
    (hrest : ∀ t, fillNodes rest scope = .ok t → Shows t more) :
    Shows text (as.flatMap piece ++ more) := by
  obtain ⟨s, t, hs, ht, rfl⟩ := fillNodes_cons_eq_ok.mp h
  refine Shows.append ?_ (hrest t ht)
  obtain ⟨texts, htexts, rfl⟩ := (fillNode_each_eq_ok hitems).mp hs
  rw [List.forall₂_map_left_iff] at htexts
  refine Shows.join ?_
  rw [List.forall₂_map_right_iff]
  exact htexts.flip.imp fun t a hat => hbody a t hat

end Templates

end ScriptingBindings.Template
