import DiceNotation.Serial.Model
import Mathlib.Data.List.Forall2

/-! # Written forms

Every value of the model is read back from what it is written as, whether or not an evaluation could
have produced it: the readers look at names, types and ranges, and compute nothing. They also pass
over fields they do not know and take a missing field for null, so what is written may be loosened
in both ways, at any depth, and still reads as the same value. Only a modifier is known by the one
field it has.
-/

namespace DiceNotation

namespace Value

/-- The names of the fields that stand for a modifier; there is one in its object, and no other. -/
def modifierNames : List String := ["explode", "keep_high", "keep_low"]

mutual

/-- A value may also be given with fields added that its objects do not have, or without those that
are null. The object of a modifier keeps its only field. -/
inductive Loosened : Value → Value → Prop where
  | same (v : Value) : Loosened v v
  | list {vs ws : List Value} : LoosenedItems vs ws → Loosened (.list vs) (.list ws)
  | modifier {name : String} {v w : Value} : name ∈ modifierNames → Loosened v w →
      Loosened (.object [(name, v)]) (.object [(name, w)])
  | object {fs gs : List (String × Value)} : (∀ f ∈ fs, f.1 ∉ modifierNames) →
      LoosenedFields (fs.map Prod.fst) fs gs → Loosened (.object fs) (.object gs)

inductive LoosenedItems : List Value → List Value → Prop where
  | nil : LoosenedItems [] []
  | cons {v w : Value} {vs ws : List Value} : Loosened v w → LoosenedItems vs ws →
      LoosenedItems (v :: vs) (w :: ws)

/-- Fields of an object that has fields of the `known` names. -/
inductive LoosenedFields : (known : List String) → List (String × Value) →
    List (String × Value) → Prop where
  | nil {known : List String} : LoosenedFields known [] []
  | keep {known : List String} {name : String} {v w : Value} {fs gs : List (String × Value)} :
      Loosened v w → LoosenedFields known fs gs →
      LoosenedFields known ((name, v) :: fs) ((name, w) :: gs)
  | leaveOut {known : List String} {name : String} {fs gs : List (String × Value)} :
      LoosenedFields known fs gs → LoosenedFields known ((name, .null) :: fs) gs
  | add {known : List String} {name : String} {w : Value} {fs gs : List (String × Value)} :
      name ∉ known → LoosenedFields known fs gs → LoosenedFields known fs ((name, w) :: gs)

end

theorem LoosenedFields.refl (known : List String) (fs : List (String × Value)) :
    LoosenedFields known fs fs := by
  induction fs with
  | nil => exact .nil
  | cons f fs ih => exact .keep (.same f.2) ih

theorem loosenedItems_iff {vs ws : List Value} :
    LoosenedItems vs ws ↔ List.Forall₂ Loosened vs ws := by
  constructor
  · intro h
    induction vs generalizing ws with
    | nil =>
        cases h
        exact .nil
    | cons v vs ih =>
        cases h with
        | cons hv hvs => exact .cons hv (ih hvs)
  · intro h
    induction h with
    | nil => exact .nil
    | cons hv _ ih => exact .cons hv ih

theorem Loosened.exists_fields {fs : List (String × Value)} {w : Value}
    (hfs : ∀ f ∈ fs, f.1 ∉ modifierNames) (h : Loosened (.object fs) w) :
    ∃ gs, w = .object gs ∧ LoosenedFields (fs.map Prod.fst) fs gs := by
  cases h with
  | same => exact ⟨fs, rfl, .refl _ fs⟩
  | modifier hname _ => exact absurd hname (hfs _ (.head _))
  | object _ hfields => exact ⟨_, rfl, hfields⟩

theorem Loosened.exists_items {vs : List Value} {w : Value} (h : Loosened (.list vs) w) :
    ∃ ws, w = .list ws ∧ List.Forall₂ Loosened vs ws := by
  cases h with
  | same => exact ⟨vs, rfl, List.forall₂_same.mpr fun v _ => .same v⟩
  | list hitems => exact ⟨_, rfl, loosenedItems_iff.mp hitems⟩

theorem Loosened.exists_modifier {name : String} {v w : Value} (hname : name ∈ modifierNames)
    (h : Loosened (.object [(name, v)]) w) :
    ∃ v', w = .object [(name, v')] ∧ Loosened v v' := by
  cases h with
  | same => exact ⟨v, rfl, .same v⟩
  | modifier _ hv => exact ⟨_, rfl, hv⟩
  | object hfs _ => exact absurd hname (hfs _ (.head _))

theorem Loosened.ne_null {v w : Value} (hv : v ≠ .null) (h : Loosened v w) : w ≠ .null := by
  cases h <;> simp_all

/-- What a look-up finds in the loosened fields, given what it finds in the fields as written. -/
inductive LoosenedField : Option Value → Option Value → Prop where
  | absent : LoosenedField none none
  | present {v w : Value} : Loosened v w → LoosenedField (some v) (some w)
  | leftOut : LoosenedField (some .null) none

theorem LoosenedField.eq_none {field : Option Value} (h : LoosenedField none field) :
    field = none := by
  cases h
  rfl

theorem lookup_eq_none {name : String} {fs : List (String × Value)}
    (h : name ∉ fs.map Prod.fst) : lookup name fs = none := by
  induction fs with
  | nil => rfl
  | cons f fs ih =>
      simp only [List.map_cons, List.mem_cons, not_or] at h
      rw [lookup, ih h.2, Option.none_or, if_neg (Ne.symm h.1)]

theorem lookup_cons_ne {key name : String} (h : key ≠ name) (v : Value)
    (fs : List (String × Value)) : lookup name ((key, v) :: fs) = lookup name fs := by
  rw [lookup, if_neg h, Option.or_none]

theorem lookup_cons_self {name : String} {fs : List (String × Value)}
    (h : lookup name fs = none) (v : Value) : lookup name ((name, v) :: fs) = some v := by
  rw [lookup, h, Option.none_or, if_pos rfl]

/-- The fields kept are found as they were, whatever fields were added around them. -/
theorem LoosenedFields.lookup {known : List String} {name : String} (hname : name ∈ known)
    {fs gs : List (String × Value)} (hnodup : (fs.map Prod.fst).Nodup) :
    LoosenedFields known fs gs → LoosenedField (Value.lookup name fs) (Value.lookup name gs)
  | .nil => .absent
  | @LoosenedFields.keep _ key v w fs gs hv h => by
      have ih := LoosenedFields.lookup hname hnodup.of_cons h
      by_cases hkey : key = name
      · subst hkey
        have hfs := lookup_eq_none (List.nodup_cons.mp hnodup).1
        rw [hfs] at ih
        rw [lookup_cons_self hfs, lookup_cons_self ih.eq_none]
        exact .present hv
      · rwa [lookup_cons_ne hkey, lookup_cons_ne hkey]
  | @LoosenedFields.leaveOut _ key fs gs h => by
      have ih := LoosenedFields.lookup hname hnodup.of_cons h
      by_cases hkey : key = name
      · subst hkey
        have hfs := lookup_eq_none (List.nodup_cons.mp hnodup).1
        rw [hfs] at ih
        rw [lookup_cons_self hfs, ih.eq_none]
        exact .leftOut
      · rwa [lookup_cons_ne hkey]
  | @LoosenedFields.add _ key _ _ _ hadd h => by
      have hkey : key ≠ name := fun h => hadd (h ▸ hname)
      rw [lookup_cons_ne hkey]
      exact LoosenedFields.lookup hname hnodup h

/-- A record of distinct fields, none of them a modifier's, stays an object; each of its fields is
found as loosened. -/
theorem Loosened.exists_record {fs : List (String × Value)} {w : Value} (names : List String)
    (hfs : fs.map Prod.fst = names) (hnames : names.Nodup ∧ ∀ name ∈ names, name ∉ modifierNames)
    (h : Loosened (.object fs) w) :
    ∃ gs, w = .object gs ∧
      ∀ name ∈ names, LoosenedField (lookup name fs) (lookup name gs) := by
  subst hfs
  obtain ⟨gs, rfl, hgs⟩ := h.exists_fields fun f hf =>
    hnames.2 f.1 (List.mem_map_of_mem hf)
  exact ⟨gs, rfl, fun name hname => hgs.lookup hname hnames.1⟩

/-- Given loosened in any way, the value is still read as `a`. -/
def Reads {α : Type} (read : Value → Option α) (v : Value) (a : α) : Prop :=
  v ≠ .null ∧ ∀ w, v.Loosened w → read w = some a

section Reads

variable {α : Type} {read : Value → Option α} {write : α → Value}

theorem Reads.required {v : Value} {a : α} {field : Option Value} (h : Reads read v a)
    (hfield : LoosenedField (some v) field) : required read field = some a := by
  cases hfield with
  | present hw => exact h.2 _ hw
  | leftOut => exact absurd rfl h.1

theorem Reads.optional (h : ∀ a, Reads read (write a) a) {a? : Option α} {field : Option Value}
    (hfield : LoosenedField (some (ofOption write a?)) field) :
    optional read field = some a? := by
  cases a? with
  | none =>
      cases hfield with
      | present hw =>
          cases hw
          rfl
      | leftOut => rfl
  | some a =>
      obtain ⟨hnull, hread⟩ := h a
      rw [ofOption] at hfield
      generalize hv : write a = v at hfield hnull hread
      cases hfield with
      | present hw => simp [Value.optional, hw.ne_null hnull, hread _ hw]
      | leftOut => exact absurd rfl hnull

theorem mapM_eq_some_iff {vs : List Value} {as : List α} :
    vs.mapM read = some as ↔ List.Forall₂ (fun w a => read w = some a) vs as := by
  induction vs generalizing as with
  | nil => simp [eq_comm]
  | cons v vs ih => cases as <;> simp [Option.bind_eq_some_iff, ← ih]

theorem exists_mapM_iff {vs : List Value} :
    (∃ as, vs.mapM read = some as) ↔ ∀ v ∈ vs, ∃ a, read v = some a := by
  induction vs with
  | nil => simp
  | cons v vs ih => simp [Option.bind_eq_some_iff, ← ih]

theorem list?_eq_some_iff {v : Value} {as : List α} :
    v.list? read = some as ↔
      ∃ vs, v = .list vs ∧ List.Forall₂ (fun w a => read w = some a) vs as := by
  cases v <;> simp [Value.list?, mapM_eq_some_iff]

theorem reads_list (h : ∀ a, Reads read (write a) a) (as : List α) :
    Reads (Value.list? read) (.ofList write as) as := by
  refine ⟨nofun, fun w hw => ?_⟩
  obtain ⟨ws, rfl, hws⟩ := hw.exists_items
  refine list?_eq_some_iff.mpr ⟨ws, rfl, ?_⟩
  rw [List.forall₂_map_left_iff] at hws
  exact (hws.imp fun a w hw => (h a).2 w hw).flip

end Reads

theorem reads_text (s : String) : Reads text? (.text s) s := by
  refine ⟨nofun, fun w hw => ?_⟩
  cases hw
  rfl

theorem reads_bool (b : Bool) : Reads bool? (.bool b) b := by
  refine ⟨nofun, fun w hw => ?_⟩
  cases hw
  rfl

theorem reads_uint64 (n : UInt64) : Reads uint64? (.ofUInt64 n) n := by
  refine ⟨nofun, fun w hw => ?_⟩
  cases hw
  have hlt : n.toNat < wordCount := n.toNat_lt
  simp [ofUInt64, uint64?, toUInt64?, hlt]

theorem reads_int64 (n : Int64) : Reads int64? (.ofInt64 n) n := by
  refine ⟨nofun, fun w hw => ?_⟩
  cases hw
  have hrange : -(halfWordCount : Int) ≤ n.toInt ∧ n.toInt < halfWordCount :=
    ⟨n.le_toInt, n.toInt_lt⟩
  rw [ofInt64, int64?, toInt64?, if_pos hrange, Int64.ofInt_toInt]

end Value

open Value

theorem Critic.reads (c : Critic) : Reads Critic.ofValue? c.toValue c := by
  refine ⟨by cases c <;> nofun, fun w hw => ?_⟩
  cases c <;> cases hw <;> rfl

theorem Verdict.reads (v : Verdict) : Reads Verdict.ofValue? v.toValue v := by
  refine ⟨nofun, fun w hw => ?_⟩
  cases v <;> cases hw <;> rfl

theorem Modifier.reads (m : Modifier) : Reads Modifier.ofValue? m.toValue m := by
  refine ⟨by cases m <;> nofun, fun w hw => ?_⟩
  cases m with
  | explode limit =>
      obtain ⟨content, rfl, hcontent⟩ := hw.exists_modifier (by decide)
      obtain ⟨gs, rfl, hgs⟩ := hcontent.exists_record ["limit"] rfl (by decide)
      have hlimit := (reads_uint64 limit).required (hgs "limit" (by decide))
      simp [Modifier.ofValue?, fields?, hlimit]
  | keepHigh keep =>
      obtain ⟨content, rfl, hcontent⟩ := hw.exists_modifier (by decide)
      simp [Modifier.ofValue?, (reads_uint64 keep).2 content hcontent]
  | keepLow keep =>
      obtain ⟨content, rfl, hcontent⟩ := hw.exists_modifier (by decide)
      simp [Modifier.ofValue?, (reads_uint64 keep).2 content hcontent]

theorem Outcome.reads (o : Outcome) : Reads Outcome.ofValue? o.toValue o := by
  refine ⟨nofun, fun w hw => ?_⟩
  obtain ⟨gs, rfl, hgs⟩ := hw.exists_record ["value", "critic"] rfl (by decide)
  have hvalue := (reads_uint64 o.value).required (hgs "value" (by decide))
  have hcritic := o.critic.reads.required (hgs "critic" (by decide))
  simp [Outcome.ofValue?, fields?, hvalue, hcritic]

theorem Term.reads (t : Term) : Reads Term.ofValue? t.toValue t := by
  refine ⟨by cases t <;> nofun, fun w hw => ?_⟩
  cases t with
  | dice d =>
      obtain ⟨gs, rfl, hgs⟩ := hw.exists_record ("kind" :: DiceRoll.fieldNames) rfl (by decide)
      have hkind := (reads_text "dice").required (hgs "kind" (by decide))
      have hraw := (reads_text d.raw).required (hgs "raw" (by decide))
      have hnegative := (reads_bool d.negative).required (hgs "negative" (by decide))
      have hcount := (reads_uint64 d.count).required (hgs "count" (by decide))
      have hfaces := (reads_uint64 d.faces).required (hgs "faces" (by decide))
      have hmodifier := Reads.optional Modifier.reads (hgs "modifier" (by decide))
      simp [Term.ofValue?, Term.ofContent?, fields?, DiceRoll.fieldNames, DiceRoll.ofFields?,
        hkind, hraw, hnegative, hcount, hfaces, hmodifier]
  | constant c =>
      obtain ⟨gs, rfl, hgs⟩ := hw.exists_record ("kind" :: Constant.fieldNames) rfl (by decide)
      have hkind := (reads_text "constant").required (hgs "kind" (by decide))
      have hraw := (reads_text c.raw).required (hgs "raw" (by decide))
      have hnegative := (reads_bool c.negative).required (hgs "negative" (by decide))
      have hvalue := (reads_uint64 c.value).required (hgs "value" (by decide))
      simp [Term.ofValue?, Term.ofContent?, fields?, Constant.fieldNames, Constant.ofFields?,
        hkind, hraw, hnegative, hvalue]

theorem TermResult.reads (r : TermResult) : Reads TermResult.ofValue? r.toValue r := by
  refine ⟨nofun, fun w hw => ?_⟩
  obtain ⟨gs, rfl, hgs⟩ :=
    hw.exists_record ["segment", "rolls", "trace", "total"] rfl (by decide)
  have hterm := r.term.reads.required (hgs "segment" (by decide))
  have hrolls := Reads.optional (reads_list Outcome.reads) (hgs "rolls" (by decide))
  have htrace := Reads.optional reads_text (hgs "trace" (by decide))
  have htotal := (reads_int64 r.total).required (hgs "total" (by decide))
  simp [TermResult.ofValue?, fields?, hterm, hrolls, htrace, htotal]

theorem Thresholds.reads (t : Thresholds) : Reads Thresholds.ofValue? t.toValue t := by
  refine ⟨nofun, fun w hw => ?_⟩
  obtain ⟨gs, rfl, hgs⟩ := hw.exists_record ["min", "max"] rfl (by decide)
  have hmin := Reads.optional reads_int64 (hgs "min" (by decide))
  have hmax := Reads.optional reads_int64 (hgs "max" (by decide))
  simp [Thresholds.ofValue?, fields?, hmin, hmax]

theorem BatchResult.reads (r : BatchResult) : Reads BatchResult.ofValue? r.toValue r := by
  refine ⟨nofun, fun w hw => ?_⟩
  obtain ⟨gs, rfl, hgs⟩ :=
    hw.exists_record ["results", "thresholds", "grand_total", "verdict"] rfl (by decide)
  have hresults := (reads_list TermResult.reads r.results).required (hgs "results" (by decide))
  have hthresholds := r.thresholds.reads.required (hgs "thresholds" (by decide))
  have htotal := (reads_int64 r.grandTotal).required (hgs "grand_total" (by decide))
  have hverdict := Reads.optional Verdict.reads (hgs "verdict" (by decide))
  simp [BatchResult.ofValue?, fields?, hresults, hthresholds, htotal, hverdict]

theorem Results.reads (r : Results) : Reads Results.ofValue? r.toValue r := by
  refine ⟨nofun, fun w hw => ?_⟩
  obtain ⟨gs, rfl, hgs⟩ := hw.exists_record ["batches"] rfl (by decide)
  have hbatches := (reads_list BatchResult.reads r.batches).required (hgs "batches" (by decide))
  simp [Results.ofValue?, fields?, hbatches]

namespace Batch

/-- A list is read as a batch if each of its items is read as a term and the first as a roll. -/
theorem ofValue_eq_ok_iff {v : Value} {b : Batch} :
    ofValue v = .ok b ↔ v.list? Term.ofValue? = some b.terms := by
  unfold ofValue
  cases v.list? Term.ofValue? with
  | none => simp
  | some ts =>
      simp only [Option.some_inj, ← ofTerms?_eq_some_iff]
      cases ofTerms? ts <;> simp

theorem items_of_ofValue {v : Value} {b : Batch} (h : ofValue v = .ok b) :
    ∃ first others, v = .list (first :: others) ∧ Term.ofValue? first = some (.dice b.lead) ∧
      List.Forall₂ (fun w t => Term.ofValue? w = some t) others b.rest := by
  obtain ⟨vs, rfl, hvs⟩ := list?_eq_some_iff.mp (ofValue_eq_ok_iff.mp h)
  cases hvs with
  | cons hfirst hothers => exact ⟨_, _, rfl, hfirst, hothers⟩

theorem exists_ofValue_iff {vs : List Value} :
    (∃ b, ofValue (.list vs) = .ok b) ↔
      (∀ v ∈ vs, ∃ t, Term.ofValue? v = some t) ∧
        ∃ first d, vs.head? = some first ∧ Term.ofValue? first = some (.dice d) := by
  rw [← exists_mapM_iff]
  constructor
  · rintro ⟨b, hb⟩
    obtain ⟨first, others, hvs, hfirst, -⟩ := items_of_ofValue hb
    obtain rfl := Value.list.inj hvs
    exact ⟨⟨b.terms, ofValue_eq_ok_iff.mp hb⟩, first, b.lead, rfl, hfirst⟩
  · rintro ⟨⟨ts, hts⟩, first, d, hhead, hfirst⟩
    obtain ⟨others, rfl⟩ := List.head?_eq_some_iff.mp hhead
    cases mapM_eq_some_iff.mp hts with
    | cons hread hothers =>
        obtain rfl := Option.some.inj (hread.symm.trans hfirst)
        exact ⟨⟨d, _⟩, ofValue_eq_ok_iff.mpr hts⟩

def read? (v : Value) : Option Batch := (ofValue v).toOption

theorem reads (b : Batch) : Reads read? b.toValue b := by
  obtain ⟨hnull, hread⟩ := reads_list Term.reads b.terms
  refine ⟨hnull, fun w hw => ?_⟩
  rw [read?, ofValue_eq_ok_iff.mpr (hread w hw)]
  rfl

end Batch

/-- Whatever is written is read back as it was, also when it is given loosened. -/
def ReadsBack {α : Type} (write : α → Value) (read : Value → Option α) : Prop :=
  ∀ a, read (write a) = some a ∧ ∀ w, (write a).Loosened w → read w = some a

theorem readsBack_of_reads {α : Type} {write : α → Value} {read : Value → Option α}
    (h : ∀ a, Reads read (write a) a) : ReadsBack write read :=
  fun a => ⟨(h a).2 _ (.same _), (h a).2⟩

/-- All that is written is read back, field for field, marks included; a list is read as a batch
exactly if all its items are terms and it opens with dice. -/
theorem readsBack_values :
    ReadsBack Term.toValue Term.ofValue? ∧
      ReadsBack Batch.toValue Batch.read? ∧
      ReadsBack TermResult.toValue TermResult.ofValue? ∧
      ReadsBack BatchResult.toValue BatchResult.ofValue? ∧
      ReadsBack Results.toValue Results.ofValue? ∧
      (∀ vs, (∃ b, Batch.ofValue (.list vs) = .ok b) ↔
        (∀ v ∈ vs, ∃ t, Term.ofValue? v = some t) ∧
          ∃ first d, vs.head? = some first ∧ Term.ofValue? first = some (.dice d)) ∧
      ∀ v b, Batch.ofValue v = .ok b →
        ∃ first others, v = .list (first :: others) ∧ Term.ofValue? first = some (.dice b.lead) ∧
          List.Forall₂ (fun w t => Term.ofValue? w = some t) others b.rest :=
  ⟨readsBack_of_reads Term.reads, readsBack_of_reads Batch.reads,
    readsBack_of_reads TermResult.reads, readsBack_of_reads BatchResult.reads,
    readsBack_of_reads Results.reads, fun _ => Batch.exists_ofValue_iff,
    fun _ _ => Batch.items_of_ofValue⟩

example :
    (Term.dice ⟨"2d6!", false, 2, 6, some (.explode 0)⟩).toValue.Loosened (.object [
      ("kind", .text "dice"),
      ("raw", .text "2d6!"),
      ("note", .fraction),
      ("negative", .bool false),
      ("count", .int 2),
      ("faces", .int 6),
      ("modifier", .object [("explode", .object [("note", .null), ("limit", .int 0)])])]) :=
  .object (by simp [modifierNames]) (.keep (.same _) (.keep (.same _) (.add (by simp)
    (.keep (.same _) (.keep (.same _) (.keep (.same _) (.keep
      (.modifier (by decide) (.object (by simp [modifierNames]) (.add (by simp) (.refl _ _))))
      .nil)))))))

example : (Thresholds.mk none (some 7)).toValue.Loosened (.object [("max", .int 7)]) :=
  .object (by simp [modifierNames]) (.leaveOut (.refl _ _))

end DiceNotation
