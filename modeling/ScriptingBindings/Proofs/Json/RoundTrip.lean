/-
  ScriptingBindings.Proofs.Json.RoundTrip
  ──────────────────────────────────
  **WRITTEN VALUES ARE READ BACK.**

  What is written of a value is read as the value, whatever gaps stand between
  its parts:

      read (pretty v) = v

  The value has to be sound, which is that its numbers with a fraction are
  rounded ones and that none of its objects has a name twice, and it must be
  one that can be written, without integers of too many digits and without
  broken texts.
-/
import Mathlib.Data.List.TakeWhile
import ScriptingBindings.Proofs.Json.Tokens
import ScriptingBindings.Proofs.OrderedMap
import ScriptingBindings.Proofs.Success

namespace ScriptingBindings

/-- A number with a fraction is what rounding gives. -/
def Fractional.IsRounded : Fractional → Prop
  | finite d => ∃ e, ofDecimal e = finite d
  | infinite _ | undefined => True

namespace Json

/-! ## §1. Sound values. -/

/-- What holds of a container if it holds of its parts holds of every value. -/
@[elab_as_elim]
theorem induction {P : Json → Prop} (null : P null) (bool : ∀ b, P (bool b)) (int : ∀ n, P (int n))
    (fractional : ∀ x, P (fractional x)) (str : ∀ s, P (str s)) (broken : ∀ b, P (broken b))
    (arr : ∀ items, (∀ v ∈ items, P v) → P (arr items))
    (obj : ∀ fields : List (String × Json), (∀ field ∈ fields, P field.2) → P (obj fields))
    (v : Json) : P v := by
  -- Lists of items and of members are types of the recursion, with motives of their own.
  refine @Json.rec P (fun items => ∀ v ∈ items, P v) (fun fields => ∀ field ∈ fields, P field.2)
    (fun field => P field.2) null bool int fractional str broken arr obj ?nil ?cons ?nilFields
    ?consFields ?field v
  case nil => exact fun v hv => absurd hv List.not_mem_nil
  case cons => exact fun v items hv hitems => List.forall_mem_cons.mpr ⟨hv, hitems⟩
  case nilFields => exact fun field hfield => absurd hfield List.not_mem_nil
  case consFields => exact fun field fields hv hfields => List.forall_mem_cons.mpr ⟨hv, hfields⟩
  case field => exact fun k v hv => hv

mutual

/-- A value with rounded numbers and objects that have no name twice. -/
def IsSound : Json → Prop
  | fractional x => x.IsRounded
  | arr items => AreSound items
  | obj fields => (OrderedMap.keys fields).Nodup ∧ AreSoundFields fields
  | null | bool _ | int _ | str _ | broken _ => True

/-- The items of an array are sound. -/
def AreSound : List Json → Prop
  | [] => True
  | v :: rest => IsSound v ∧ AreSound rest

/-- The members of an object are sound. -/
def AreSoundFields : List (String × Json) → Prop
  | [] => True
  | (_, v) :: rest => IsSound v ∧ AreSoundFields rest

end

theorem areSound_iff {items : List Json} : AreSound items ↔ ∀ v ∈ items, v.IsSound := by
  induction items with
  | nil => simp [AreSound]
  | cons v items ih => rw [AreSound, ih, List.forall_mem_cons]

theorem areSoundFields_iff {fields : List (String × Json)} :
    AreSoundFields fields ↔ ∀ field ∈ fields, field.2.IsSound := by
  induction fields with
  | nil => simp [AreSoundFields]
  | cons field fields ih => rw [AreSoundFields, ih, List.forall_mem_cons]

theorem isWritable_iff {v : Json} : v.isWritable = true ↔ v.writeFault? = none :=
  Option.isNone_iff_eq_none

/-- An array can be written if its items can. -/
theorem isWritable_arr {items : List Json} :
    (arr items).isWritable = true ↔ ∀ v ∈ items, v.isWritable = true := by
  simp only [isWritable_iff, writeFault?]
  induction items with
  | nil => simp [itemsFault?]
  | cons v items ih => rw [itemsFault?, Option.or_eq_none_iff, ih, List.forall_mem_cons]

/-- An object can be written if its members can. -/
theorem isWritable_obj {fields : List (String × Json)} :
    (obj fields).isWritable = true ↔ ∀ field ∈ fields, field.2.isWritable = true := by
  simp only [isWritable_iff, writeFault?]
  induction fields with
  | nil => simp [fieldsFault?]
  | cons field fields ih => rw [fieldsFault?, Option.or_eq_none_iff, ih, List.forall_mem_cons]

/-- A value that a text can denote. -/
structure IsReadable (v : Json) : Prop where
  sound : v.IsSound
  writable : v.isWritable = true

/-- An array is readable if its items are. -/
theorem isReadable_arr {items : List Json} :
    (arr items).IsReadable ↔ ∀ v ∈ items, v.IsReadable := by
  constructor
  · exact fun h v hv => ⟨areSound_iff.mp h.sound v hv, isWritable_arr.mp h.writable v hv⟩
  · exact fun h =>
      ⟨areSound_iff.mpr fun v hv => (h v hv).sound,
        isWritable_arr.mpr fun v hv => (h v hv).writable⟩

/-- An object is readable if its members are and all have different names. -/
theorem isReadable_obj {fields : List (String × Json)} :
    (obj fields).IsReadable ↔
      (OrderedMap.keys fields).Nodup ∧ ∀ field ∈ fields, field.2.IsReadable := by
  constructor
  · exact fun h => ⟨h.sound.1, fun field hfield =>
      ⟨areSoundFields_iff.mp h.sound.2 field hfield, isWritable_obj.mp h.writable field hfield⟩⟩
  · exact fun ⟨hkeys, h⟩ =>
      ⟨⟨hkeys, areSoundFields_iff.mpr fun field hfield => (h field hfield).sound⟩,
        isWritable_obj.mpr fun field hfield => (h field hfield).writable⟩

/-! ## §2. Gaps. -/

/-- A layout with nothing but gaps between the parts of a value. -/
structure Layout.IsBlank (layout : Layout) : Prop where
  breaks : ∀ level, ∀ c ∈ layout.breakAt level, c.isWhitespace = true
  gap : ∀ c ∈ layout.gap, c.isWhitespace = true

theorem Layout.isBlank_indented : Layout.indented.IsBlank where
  breaks level c hc := by
    rcases List.mem_cons.mp hc with rfl | hc
    · decide
    · rw [List.eq_of_mem_replicate hc]
      decide
  gap c hc := by
    rw [List.mem_singleton.mp hc]
    decide

theorem skipGap_append {gap : List Char} (h : ∀ c ∈ gap, c.isWhitespace = true) (s : List Char) :
    skipGap (gap ++ s) = skipGap s :=
  List.dropWhile_append_of_pos h

theorem skipGap_cons {c : Char} (h : c.isWhitespace = false) (s : List Char) :
    skipGap (c :: s) = c :: s := by
  rw [skipGap, List.dropWhile_cons, if_neg (by rw [h]; exact Bool.false_ne_true)]

theorem endsNumber_cons {c : Char} (h : c.isWhitespace = true ∨ c ∈ [',', ']', '\x7d'])
    (s : List Char) : EndsNumber (c :: s) := by
  intro c' hc'
  obtain rfl := Option.some.inj hc'
  have hall : [' ', '\t', '\n', '\r', ',', ']', '\x7d'].all fun c =>
      !c.isDigit && c != '.' && c != 'e' && c != 'E' := by decide
  have hmem : c ∈ [' ', '\t', '\n', '\r', ',', ']', '\x7d'] := by
    rcases h with h | h
    · simp only [Char.isWhitespace, Bool.or_eq_true, decide_eq_true_eq] at h
      simp only [List.mem_cons]
      tauto
    · exact List.mem_append_right [' ', '\t', '\n', '\r'] h
  simpa [and_assoc] using List.all_eq_true.mp hall c hmem

theorem endsNumber_append {gap : List Char} (h : ∀ c ∈ gap, c.isWhitespace = true) {s : List Char}
    (hs : EndsNumber s) : EndsNumber (gap ++ s) := by
  cases gap with
  | nil => exact hs
  | cons c gap => exact endsNumber_cons (.inl (h c List.mem_cons_self)) _

/-! ## §3. Values without parts. -/

variable {fuel depth : Nat} {rest : List Char}

theorem afterWord?_append (word rest : List Char) : afterWord? word (word ++ rest) = some rest := by
  induction word with
  | nil => rfl
  | cons c word ih => rw [List.cons_append, afterWord?, if_pos rfl, ih]

theorem expectWord_append (word : String) (v : Json) (rest : List Char) :
    expectWord word v (word.toList ++ rest) = .ok (v, rest) := by
  rw [expectWord, afterWord?_append]

/-- A value that starts with a digit or a sign is a number. -/
theorem readValue_number {s : List Char} (h : StartsNumber s) (rest : List Char) :
    readValue (fuel + 1) depth (s ++ rest) = readNumber (s ++ rest) := by
  obtain ⟨c, t, rfl, hc⟩ := h
  have hne (c' : Char) (hc' : ¬ (c'.isDigit = true ∨ c' = '-')) (s : List Char) :
      (c :: t) ++ rest ≠ c' :: s :=
    fun hs => hc' ((List.cons.inj hs).1 ▸ hc)
  rw [readValue]
  exacts [hne '"' (by decide), hne '[' (by decide), hne '\x7b' (by decide), hne 'n' (by decide),
    hne 't' (by decide), hne 'f' (by decide), hne 'N' (by decide), hne 'I' (by decide)]

theorem readValue_fractional {x : Fractional} (hx : x.IsRounded) (hrest : EndsNumber rest) :
    readValue (fuel + 1) depth ((x.text inJson).toList ++ rest) = .ok (fractional x, rest) := by
  cases x with
  | finite d =>
    obtain ⟨e, he⟩ := hx
    have hread := readNumber_decimal d hrest
    rw [Fractional.ofDecimal_eq_self he] at hread
    exact (readValue_number (startsNumber_decimal d) rest).trans hread
  | infinite negative =>
    cases negative with
    | false =>
      show readValue (fuel + 1) depth ('I' :: ("nfinity".toList ++ rest)) = _
      rw [readValue]
      exact expectWord_append "Infinity" _ rest
    | true =>
      have hstart : StartsNumber ('-' :: "Infinity".toList) := ⟨'-', _, rfl, .inr rfl⟩
      exact (readValue_number hstart rest).trans (expectWord_append "Infinity" _ rest)
  | undefined =>
    show readValue (fuel + 1) depth ('N' :: ("aN".toList ++ rest)) = _
    rw [readValue]
    exact expectWord_append "NaN" _ rest

/-- A text starts with a character that is neither a gap nor the end of an array. -/
def StartsValue (s : List Char) : Prop :=
  ∃ c t, s = c :: t ∧ c.isWhitespace = false ∧ c ≠ ']'

theorem StartsNumber.startsValue {s : List Char} (h : StartsNumber s) : StartsValue s := by
  obtain ⟨c, t, rfl, hc⟩ := h
  refine ⟨c, t, rfl, ?_, ?_⟩
  · cases hgap : c.isWhitespace with
    | false => rfl
    | true =>
      have hall : [' ', '\t', '\r', '\n'].all fun c => !c.isDigit && c != '-' := by decide
      have hmem : c ∈ [' ', '\t', '\r', '\n'] := by simpa [Char.isWhitespace, or_assoc] using hgap
      have hnone : c.isDigit = false ∧ c ≠ '-' := by
        simpa using List.all_eq_true.mp hall c hmem
      exact absurd hc (by simp [hnone])
  · rintro rfl
    exact absurd hc (by decide)

theorem startsValue_written (layout : Layout) (level : Nat) (v : Json) :
    StartsValue (written layout level v) := by
  match v with
  | null => exact ⟨'n', _, rfl, by decide, by decide⟩
  | bool true => exact ⟨'t', _, rfl, by decide, by decide⟩
  | bool false => exact ⟨'f', _, rfl, by decide, by decide⟩
  | int n => exact (startsNumber_int n).startsValue
  | fractional (.finite d) => exact (startsNumber_decimal d).startsValue
  | fractional (.infinite true) => exact ⟨'-', _, rfl, by decide, by decide⟩
  | fractional (.infinite false) => exact ⟨'I', _, rfl, by decide, by decide⟩
  | fractional .undefined => exact ⟨'N', _, rfl, by decide, by decide⟩
  | str s => exact ⟨'"', _, rfl, by decide, by decide⟩
  | broken b => exact ⟨'"', _, rfl, by decide, by decide⟩
  | arr [] => exact ⟨'[', _, rfl, by decide, by decide⟩
  | arr (v :: items) => exact ⟨'[', _, by rw [written]; rfl, by decide, by decide⟩
  | obj [] => exact ⟨'\x7b', _, rfl, by decide, by decide⟩
  | obj ((k, v) :: fields) => exact ⟨'\x7b', _, by rw [written]; rfl, by decide, by decide⟩

/-! ## §4. Items. -/

/-- A value is read back at every place where it can stand. -/
def ReadsBack (layout : Layout) (v : Json) : Prop :=
  ∀ level fuel depth rest, v.IsReadable → v.nesting < depth →
    (written layout level v).length ≤ fuel → EndsNumber rest →
      readValue fuel depth (written layout level v ++ rest) = .ok (v, rest)

/-- The items after one that is read back are read back. -/
def ItemsReadBack (layout : Layout) (items : List Json) : Prop :=
  ∀ v, ReadsBack layout v → ∀ level fuel depth before gap rest,
    (∀ w ∈ v :: items, w.IsReadable) → nestingItems (v :: items) ≤ depth →
      (written layout level v ++ writtenItems layout level items).length < fuel →
        (∀ c ∈ gap, c.isWhitespace = true) →
          readItems fuel depth before (written layout level v ++ (writtenItems layout level items
            ++ (gap ++ ']' :: rest))) = .ok (before.reverse ++ v :: items, rest)

variable {layout : Layout} {level : Nat}

/-- What follows an item is no part of a number. -/
theorem endsNumber_writtenItems (layout : Layout) (level : Nat) (items : List Json)
    {gap : List Char} (hgap : ∀ c ∈ gap, c.isWhitespace = true) (rest : List Char) :
    EndsNumber (writtenItems layout level items ++ (gap ++ ']' :: rest)) := by
  cases items with
  | nil => exact endsNumber_append hgap (endsNumber_cons (.inr (by decide)) rest)
  | cons w items =>
    rw [writtenItems, List.append_assoc, List.append_assoc]
    exact endsNumber_cons (.inr (by decide)) _

theorem skipGap_written (layout : Layout) (level : Nat) (v : Json) (rest : List Char) :
    skipGap (written layout level v ++ rest) = written layout level v ++ rest := by
  obtain ⟨c, t, hc, hstart, -⟩ := startsValue_written layout level v
  rw [hc, List.cons_append, skipGap_cons hstart]

/-- The last item is read. -/
theorem readItems_last (before : List Json) {v : Json} {s : List Char}
    (hread : readValue fuel depth (written layout level v ++ s) = .ok (v, s))
    (hs : skipGap s = ']' :: rest) :
    readItems (fuel + 1) depth before (written layout level v ++ s)
      = .ok (before.reverse ++ [v], rest) := by
  rw [readItems, hread, ok_bind]
  simp only [hs, List.reverse_cons]
  rfl

/-- An item is read, and another one follows. -/
theorem readItems_next (before : List Json) {v : Json} {s : List Char}
    (hread : readValue fuel depth (written layout level v ++ s) = .ok (v, s))
    (hs : skipGap s = ',' :: rest) :
    readItems (fuel + 1) depth before (written layout level v ++ s)
      = readItems fuel depth (v :: before) (skipGap rest) := by
  rw [readItems, hread, ok_bind]
  simp only [hs]

theorem itemsReadBack_nil (layout : Layout) : ItemsReadBack layout [] := by
  intro v hv level fuel depth before gap rest hreadable hdepth hfuel hgap
  obtain ⟨fuel, rfl⟩ : ∃ n, fuel = n + 1 := Nat.exists_eq_succ_of_ne_zero (by omega)
  rw [writtenItems, List.append_nil] at hfuel
  rw [nestingItems] at hdepth
  have hread := hv level fuel depth (gap ++ ']' :: rest) (hreadable v List.mem_cons_self)
    (by omega) (by omega) (endsNumber_writtenItems layout level [] hgap rest)
  rw [writtenItems, List.nil_append]
  exact readItems_last before hread (by rw [skipGap_append hgap, skipGap_cons (by decide)])

theorem itemsReadBack_cons (hlayout : layout.IsBlank) {w : Json} {items : List Json}
    (hw : ReadsBack layout w) (hitems : ItemsReadBack layout items) :
    ItemsReadBack layout (w :: items) := by
  intro v hv level fuel depth before gap rest hreadable hdepth hfuel hgap
  obtain ⟨hvalue, hrest⟩ := List.forall_mem_cons.mp hreadable
  obtain ⟨fuel, rfl⟩ : ∃ n, fuel = n + 1 := Nat.exists_eq_succ_of_ne_zero (by omega)
  rw [nestingItems] at hdepth
  have hread := hv level fuel depth _ hvalue (by omega)
    (by rw [List.length_append] at hfuel; omega)
    (endsNumber_writtenItems layout level (w :: items) hgap rest)
  have hnext := hitems w hw level fuel depth (v :: before) gap rest hrest (by omega)
    (by simp only [writtenItems, List.length_append, List.length_cons] at hfuel ⊢; omega) hgap
  simp only [writtenItems, List.append_assoc, List.cons_append] at hread ⊢
  rw [readItems_next before hread (skipGap_cons (by decide) _),
    skipGap_append (hlayout.breaks level), skipGap_written, hnext, List.reverse_cons,
    List.append_assoc]
  rfl

theorem itemsReadBack (hlayout : layout.IsBlank) {items : List Json}
    (h : ∀ v ∈ items, ReadsBack layout v) : ItemsReadBack layout items := by
  -- The item in front and those read before it are free, so each step moves one of them over.
  induction items with
  | nil => exact itemsReadBack_nil layout
  | cons v items ih =>
    obtain ⟨hv, hitems⟩ := List.forall_mem_cons.mp h
    exact itemsReadBack_cons hlayout hv (ih hitems)

/-! ## §5. Members. -/

/-- The members after one that is read back are read back. -/
def FieldsReadBack (layout : Layout) (fields : List (String × Json)) : Prop :=
  ∀ k v, ReadsBack layout v → ∀ level fuel depth before gap rest,
    (∀ field ∈ (k, v) :: fields, field.2.IsReadable) →
      (OrderedMap.keys (before ++ (k, v) :: fields)).Nodup →
        nestingFields ((k, v) :: fields) ≤ depth →
          (written layout level v ++ writtenFields layout level fields).length < fuel →
            (∀ c ∈ gap, c.isWhitespace = true) →
              readMembers fuel depth before (writtenText k ++ (':' :: (layout.gap
                ++ (written layout level v ++ (writtenFields layout level fields
                  ++ (gap ++ '\x7d' :: rest)))))) = .ok (before ++ (k, v) :: fields, rest)

/-- What follows a member is no part of a number. -/
theorem endsNumber_writtenFields (layout : Layout) (level : Nat) (fields : List (String × Json))
    {gap : List Char} (hgap : ∀ c ∈ gap, c.isWhitespace = true) (rest : List Char) :
    EndsNumber (writtenFields layout level fields ++ (gap ++ '\x7d' :: rest)) := by
  match fields with
  | [] => exact endsNumber_append hgap (endsNumber_cons (.inr (by decide)) rest)
  | (k, v) :: fields =>
    rw [writtenFields]
    simp only [List.append_assoc, List.cons_append]
    exact endsNumber_cons (.inr (by decide)) _

theorem skipGap_writtenText (k : String) (rest : List Char) :
    skipGap (writtenText k ++ rest) = writtenText k ++ rest :=
  skipGap_cons (by decide) _

/-- The last member is read. -/
theorem readMembers_last (hlayout : layout.IsBlank) {k : String} {v : Json}
    (before : List (String × Json)) {s : List Char}
    (hread : readValue fuel depth (written layout level v ++ s) = .ok (v, s))
    (hs : skipGap s = '\x7d' :: rest) :
    readMembers (fuel + 1) depth before (writtenText k ++ (':' :: (layout.gap
      ++ (written layout level v ++ s)))) = .ok (OrderedMap.put before k v, rest) := by
  rw [writtenText, List.cons_append, List.cons_append, readMembers, List.append_assoc,
    List.singleton_append, readString_written, ok_bind]
  simp only [skipGap_cons (show Char.isWhitespace ':' = false by decide), skipGap_append hlayout.gap,
    skipGap_written, hread, ok_bind, hs, Text.nameOf_map_char, String.ofList_toList]
  rfl

/-- A member is read, and another one follows. -/
theorem readMembers_next (hlayout : layout.IsBlank) {k : String} {v : Json}
    (before : List (String × Json)) {s : List Char}
    (hread : readValue fuel depth (written layout level v ++ s) = .ok (v, s))
    (hs : skipGap s = ',' :: rest) :
    readMembers (fuel + 1) depth before (writtenText k ++ (':' :: (layout.gap
      ++ (written layout level v ++ s)))) = readMembers fuel depth (OrderedMap.put before k v)
        (skipGap rest) := by
  rw [writtenText, List.cons_append, List.cons_append, readMembers, List.append_assoc,
    List.singleton_append, readString_written, ok_bind]
  simp only [skipGap_cons (show Char.isWhitespace ':' = false by decide), skipGap_append hlayout.gap,
    skipGap_written, hread, ok_bind, hs, Text.nameOf_map_char, String.ofList_toList]

/-- A member with a new name is put behind the others. -/
theorem put_of_nodup {before fields : List (String × Json)} {k : String} {v : Json}
    (h : (OrderedMap.keys (before ++ (k, v) :: fields)).Nodup) :
    OrderedMap.put before k v = before ++ [(k, v)] := by
  refine OrderedMap.put_of_not_has ?_ v
  have hk : k ∉ OrderedMap.keys before := by
    intro hmem
    rw [OrderedMap.keys, List.map_append, List.map_cons] at h
    exact (List.disjoint_of_nodup_append h) hmem List.mem_cons_self
  rw [OrderedMap.has, OrderedMap.get?_eq_none hk]
  rfl

theorem fieldsReadBack_nil (hlayout : layout.IsBlank) : FieldsReadBack layout [] := by
  intro k v hv level fuel depth before gap rest hreadable hkeys hdepth hfuel hgap
  obtain ⟨fuel, rfl⟩ : ∃ n, fuel = n + 1 := Nat.exists_eq_succ_of_ne_zero (by omega)
  rw [writtenFields, List.append_nil] at hfuel
  rw [nestingFields] at hdepth
  have hread := hv level fuel depth (gap ++ '\x7d' :: rest) (hreadable (k, v) List.mem_cons_self)
    (by omega) (by omega) (endsNumber_writtenFields layout level [] hgap rest)
  rw [writtenFields, List.nil_append, ← put_of_nodup hkeys]
  exact readMembers_last hlayout before hread
    (by rw [skipGap_append hgap, skipGap_cons (by decide)])

theorem fieldsReadBack_cons (hlayout : layout.IsBlank) {name : String} {w : Json}
    {fields : List (String × Json)} (hw : ReadsBack layout w)
    (hfields : FieldsReadBack layout fields) : FieldsReadBack layout ((name, w) :: fields) := by
  intro k v hv level fuel depth before gap rest hreadable hkeys hdepth hfuel hgap
  obtain ⟨hvalue, hrest⟩ := List.forall_mem_cons.mp hreadable
  obtain ⟨fuel, rfl⟩ : ∃ n, fuel = n + 1 := Nat.exists_eq_succ_of_ne_zero (by omega)
  rw [nestingFields] at hdepth
  have hread := hv level fuel depth _ hvalue (by omega)
    (by rw [List.length_append] at hfuel; omega)
    (endsNumber_writtenFields layout level ((name, w) :: fields) hgap rest)
  -- The names are new also behind the member that is read now.
  have hnext := hfields name w hw level fuel depth (before ++ [(k, v)]) gap rest hrest
    (by rwa [List.append_assoc]) (by omega)
    (by simp only [writtenFields, List.length_append, List.length_cons] at hfuel ⊢; omega) hgap
  simp only [writtenFields, List.append_assoc, List.cons_append] at hread ⊢
  rw [readMembers_next hlayout before hread (skipGap_cons (by decide) _),
    skipGap_append (hlayout.breaks level), skipGap_writtenText, put_of_nodup hkeys, hnext,
    List.append_assoc]
  rfl

theorem fieldsReadBack (hlayout : layout.IsBlank) {fields : List (String × Json)}
    (h : ∀ field ∈ fields, ReadsBack layout field.2) : FieldsReadBack layout fields := by
  induction fields with
  | nil => exact fieldsReadBack_nil hlayout
  | cons field fields ih =>
    obtain ⟨hfield, hfields⟩ := List.forall_mem_cons.mp h
    exact fieldsReadBack_cons hlayout hfield (ih hfields)

/-! ## §6. Values. -/

theorem readValue_arr {s : List Char} {items : List Json} (hs : ∀ t, skipGap s ≠ ']' :: t)
    (h : readItems fuel depth [] (skipGap s) = .ok (items, rest)) :
    readValue (fuel + 1) (depth + 1) ('[' :: s) = .ok (arr items, rest) := by
  rw [readValue]
  dsimp only
  split
  next t ht => exact absurd ht (hs t)
  next => rw [h, ok_bind]; rfl

theorem readValue_obj {s : List Char} {fields : List (String × Json)}
    (hs : ∀ t, skipGap s ≠ '\x7d' :: t)
    (h : readMembers fuel depth [] (skipGap s) = .ok (fields, rest)) :
    readValue (fuel + 1) (depth + 1) ('\x7b' :: s) = .ok (obj fields, rest) := by
  rw [readValue]
  dsimp only
  split
  next t ht => exact absurd ht (hs t)
  next => rw [h, ok_bind]; rfl

theorem readsBack_arr (hlayout : layout.IsBlank) {v : Json} {items : List Json}
    (hv : ReadsBack layout v) (hitems : ItemsReadBack layout items) :
    ReadsBack layout (arr (v :: items)) := by
  intro level fuel depth rest hreadable hdepth hfuel hrest
  rw [written] at hfuel ⊢
  simp only [List.length_append, List.length_cons, List.length_nil] at hfuel
  obtain ⟨fuel, rfl⟩ : ∃ n, fuel = n + 1 := Nat.exists_eq_succ_of_ne_zero (by omega)
  obtain ⟨depth, rfl⟩ : ∃ n, depth = n + 1 := Nat.exists_eq_succ_of_ne_zero (by omega)
  have hread := hitems v hv (level + 1) fuel depth [] (layout.breakAt level) rest
    (isReadable_arr.mp hreadable) (Nat.le_of_lt_succ hdepth)
    (by rw [List.length_append]; omega) (hlayout.breaks level)
  obtain ⟨c, t, hc, -, hclose⟩ := startsValue_written layout (level + 1) v
  simp only [List.append_assoc, List.cons_append, List.nil_append]
  -- The first item is not taken for the end of the array.
  refine readValue_arr (fun t' => ?_) ?_
  · rw [skipGap_append (hlayout.breaks _), skipGap_written, hc]
    exact fun h => hclose (List.cons.inj h).1
  · rw [skipGap_append (hlayout.breaks _), skipGap_written]
    exact hread

theorem readsBack_obj (hlayout : layout.IsBlank) {k : String} {v : Json}
    {fields : List (String × Json)} (hv : ReadsBack layout v)
    (hfields : FieldsReadBack layout fields) : ReadsBack layout (obj ((k, v) :: fields)) := by
  intro level fuel depth rest hreadable hdepth hfuel hrest
  rw [written] at hfuel ⊢
  simp only [List.length_append, List.length_cons, List.length_nil] at hfuel
  obtain ⟨fuel, rfl⟩ : ∃ n, fuel = n + 1 := Nat.exists_eq_succ_of_ne_zero (by omega)
  obtain ⟨depth, rfl⟩ : ∃ n, depth = n + 1 := Nat.exists_eq_succ_of_ne_zero (by omega)
  obtain ⟨hkeys, hmembers⟩ := isReadable_obj.mp hreadable
  have hread := hfields k v hv (level + 1) fuel depth [] (layout.breakAt level) rest hmembers
    hkeys (Nat.le_of_lt_succ hdepth) (by rw [List.length_append]; omega) (hlayout.breaks level)
  simp only [List.append_assoc, List.cons_append, List.nil_append]
  refine readValue_obj (fun t' => ?_) ?_
  · rw [skipGap_append (hlayout.breaks _), skipGap_writtenText]
    exact fun h => absurd (List.cons.inj h).1 (by decide)
  · rw [skipGap_append (hlayout.breaks _), skipGap_writtenText]
    exact hread

theorem readsBack_nil : ReadsBack layout (arr []) := by
  intro level fuel depth rest _ hdepth hfuel _
  rw [written, List.length_cons] at hfuel
  obtain ⟨fuel, rfl⟩ : ∃ n, fuel = n + 1 := Nat.exists_eq_succ_of_ne_zero (by omega)
  obtain ⟨depth, rfl⟩ : ∃ n, depth = n + 1 := Nat.exists_eq_succ_of_ne_zero (by omega)
  rw [written, List.cons_append, List.singleton_append, readValue]
  simp only [skipGap_cons (show Char.isWhitespace ']' = false by decide)]

theorem readsBack_nilFields : ReadsBack layout (obj []) := by
  intro level fuel depth rest _ hdepth hfuel _
  rw [written, List.length_cons] at hfuel
  obtain ⟨fuel, rfl⟩ : ∃ n, fuel = n + 1 := Nat.exists_eq_succ_of_ne_zero (by omega)
  obtain ⟨depth, rfl⟩ : ∃ n, depth = n + 1 := Nat.exists_eq_succ_of_ne_zero (by omega)
  rw [written, List.cons_append, List.singleton_append, readValue]
  simp only [skipGap_cons (show Char.isWhitespace '\x7d' = false by decide)]

/-- A value without parts is read back if it is wherever there is any fuel. -/
theorem readsBack_of_leaf {v : Json} (h : ∀ level fuel depth rest, v.IsReadable → EndsNumber rest →
    readValue (fuel + 1) depth (written layout level v ++ rest) = .ok (v, rest)) :
    ReadsBack layout v := by
  intro level fuel depth rest hreadable _ hfuel hrest
  obtain ⟨c, t, hc, -⟩ := startsValue_written layout level v
  rw [hc, List.length_cons] at hfuel
  obtain ⟨fuel, rfl⟩ : ∃ n, fuel = n + 1 := Nat.exists_eq_succ_of_ne_zero (by omega)
  exact h level fuel depth rest hreadable hrest

/-- **Every value is read back**, by induction on its parts. -/
theorem readsBack (hlayout : layout.IsBlank) (v : Json) : ReadsBack layout v := by
  induction v using induction with
  | null =>
    refine readsBack_of_leaf fun level fuel depth rest _ _ => ?_
    show readValue (fuel + 1) depth ('n' :: ("ull".toList ++ rest)) = _
    rw [readValue]
    exact expectWord_append "null" _ rest
  | bool b =>
    refine readsBack_of_leaf fun level fuel depth rest _ _ => ?_
    cases b with
    | false =>
      show readValue (fuel + 1) depth ('f' :: ("alse".toList ++ rest)) = _
      rw [readValue]
      exact expectWord_append "false" _ rest
    | true =>
      show readValue (fuel + 1) depth ('t' :: ("rue".toList ++ rest)) = _
      rw [readValue]
      exact expectWord_append "true" _ rest
  | int n =>
    refine readsBack_of_leaf fun level fuel depth rest hreadable hrest => ?_
    rw [written, readValue_number (startsNumber_int n)]
    refine readNumber_int ?_ hrest
    by_contra hlong
    exact absurd (isWritable_iff.mp hreadable.writable) (by simp [writeFault?, hlong])
  | fractional x =>
    refine readsBack_of_leaf fun level fuel depth rest hreadable hrest => ?_
    rw [written]
    exact readValue_fractional hreadable.sound hrest
  | str s =>
    refine readsBack_of_leaf fun level fuel depth rest _ _ => ?_
    rw [written, writtenText, List.cons_append, List.cons_append, readValue, List.append_assoc,
      List.singleton_append, readString_written, ok_bind]
    dsimp only
    rw [ofCodes_map_char, String.ofList_toList]
    rfl
  | broken b =>
    refine readsBack_of_leaf fun level fuel depth rest hreadable _ => ?_
    exact absurd (isWritable_iff.mp hreadable.writable) (by simp [writeFault?])
  | arr items hitems =>
    cases items with
    | nil => exact readsBack_nil
    | cons v items =>
      obtain ⟨hv, hitems⟩ := List.forall_mem_cons.mp hitems
      exact readsBack_arr hlayout hv (itemsReadBack hlayout hitems)
  | obj fields hfields =>
    cases fields with
    | nil => exact readsBack_nilFields
    | cons field fields =>
      obtain ⟨hfield, hfields⟩ := List.forall_mem_cons.mp hfields
      exact readsBack_obj hlayout hfield (fieldsReadBack hlayout hfields)

/-- **What is written of a value is read as the value.** -/
theorem read_written [Machine] (hlayout : layout.IsBlank) {v : Json} (hreadable : v.IsReadable)
    (hdepth : v.nesting < Machine.depth) : read (String.ofList (written layout 0 v)) = .ok v := by
  have hread := readsBack hlayout v 0 ((written layout 0 v).length + 1) Machine.depth [] hreadable
    hdepth (Nat.le_succ _) fun c hc => absurd hc (by simp)
  have hskip := skipGap_written layout 0 v []
  rw [List.append_nil] at hread hskip
  unfold read
  rw [String.toList_ofList, hskip]
  dsimp only
  rw [hread, ok_bind]
  rfl

/-- **A value that is written with one member or item a line is read back.** -/
theorem read_pretty [Machine] {v : Json} (hreadable : v.IsReadable)
    (hdepth : v.nesting < Machine.depth) : read v.pretty = .ok v :=
  read_written Layout.isBlank_indented hreadable hdepth

end Json

end ScriptingBindings
