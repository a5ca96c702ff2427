import ComponentTags.Proofs.Json.Nesting

/-!
# Sources that give back what was written

The readers of domain types are written once for every source, and so is the proof that they read what
the writers of the same types give: a source is faithful if its readings have the laws of
`FaithfulSource`. Running text is such a source (as deep as its levels reach), and so are values that
were kept.
-/

namespace ComponentTags.Json

/-- How entries fill a draft in turn: each goes to the field of its key, which must be empty yet. -/
inductive Fills {m : Type → Type} {δ : Type} (takes : m δ → Value → δ → Prop)
    (fields : List (Field m δ)) : List (String × Value) → δ → δ → Prop where
  | nil (draft : δ) : Fills takes fields [] draft draft
  | cons {key : String} {v : Value} {entries : List (String × Value)} {field : Field m δ}
    {draft next last : δ} (hfield : fields.find? (·.key == key) = some field)
    (hempty : field.filled draft = false) (htakes : takes (field.read draft) v next)
    (hrest : Fills takes fields entries next last) :
    Fills takes fields ((key, v) :: entries) draft last

theorem Fills.imp {m : Type → Type} {δ : Type} {takes takes' : m δ → Value → δ → Prop}
    {fields : List (Field m δ)} {entries : List (String × Value)} {draft last : δ}
    (himp : ∀ x v a, takes x v a → takes' x v a) (h : Fills takes fields entries draft last) :
    Fills takes' fields entries draft last := by
  induction h with
  | nil draft => exact .nil draft
  | cons hfield hempty htakes hrest ih => exact .cons hfield hempty (himp _ _ _ htakes) ih

/-- A source that gives back what was written. What it means for a reader to take a value for something
is up to the source. -/
class FaithfulSource (m : Type → Type) [Source m] where
  /-- The reader makes something of the value. -/
  Takes {α : Type} : m α → Value → α → Prop
  map {α β : Type} {x : m α} {v : Value} {a : α} (g : α → β) : Takes x v a → Takes (g <$> x) v (g a)
  string (s : String) : Takes Source.string (.string s) s
  word32 (n : UInt32) : Takes Source.word32 (.natural n.toNat) n
  list {α : Type} {item : m α} {vs : List Value} {as : List α} :
    List.Forall₂ (Takes item) vs as → Takes (Source.list item) (.array vs) as
  record {δ α : Type} {layout : Layout m δ α} {entries : List (String × Value)} {a : α} (draft : δ) :
    Fills Takes layout.fields entries layout.blank draft → layout.finishByKeys draft = .ok a →
      Takes (Source.record layout) (.object entries) a
  kind {α : Type} {c : Choice α} {name label : String} {a : α} :
    c.variants.lookup name = some (.none label a) →
      Takes (Source.choice c) (.object [(c.kindKey, .string name)]) a
  kindWithString {α : Type} {c : Choice α} {name : String} {f : String → α} (s : String) :
    c.kindKey ≠ c.contentKey → c.variants.lookup name = some (.string f) →
      Takes (Source.choice c) (.object [(c.kindKey, .string name), (c.contentKey, .string s)]) (f s)

/-- An entry whose key is that of a field read by a reader of its own. -/
theorem Fills.consOf {m : Type → Type} [Source m] [FaithfulSource m] {δ β : Type} {key : String}
    {get : δ → Option β} {put : δ → β → δ} {reader : m β} {fields : List (Field m δ)} {v : Value}
    {es : List (String × Value)} {draft last : δ} {b : β}
    (hfield : fields.find? (·.key == key) = some (.of key get put reader))
    (hempty : get draft = none) (h : FaithfulSource.Takes reader v b)
    (hrest : Fills FaithfulSource.Takes fields es (put draft b) last) :
    Fills FaithfulSource.Takes fields ((key, v) :: es) draft last :=
  .cons hfield (congrArg Option.isSome hempty) (FaithfulSource.map (put draft) h) hrest

theorem toWord32_natural (n : UInt32) : toWord32 (.natural n.toNat) = .ok n := by
  show (if n.toNat < UInt32.size then Except.ok n.toNat.toUInt32 else _) = _
  rw [if_pos n.toNat_lt]
  exact congrArg Except.ok UInt32.ofNat_toNat

theorem ofName_eq_ok {β : Type} {variants : List (String × β)} {name : String} {b : β}
    (hname : variants.lookup name = some b) : ofName variants name = .ok b := by
  unfold ofName
  rw [hname]

/-! ## Running text -/

namespace Scan

variable {α β δ : Type} {depth : Nat}

/-- The reader makes `a` of the value as it is written, wherever that nests less deep than there are
levels, and fails wherever it does not. -/
structure Takes (x : Scan α) (v : Value) (a : α) : Prop where
  plain : v.IsPlain
  takesAt {depth : Nat} (hdepth : 0 < depth) : TakesAt depth x v a

theorem Takes.map {x : Scan α} {v : Value} {a : α} (g : α → β) (h : Takes x v a) :
    Takes (g <$> x) v (g a) where
  plain := h.plain
  takesAt hdepth := (h.takesAt hdepth).map

/-- Wherever a value nests less deep than there are levels, it is read. -/
theorem Takes.reads {x : Scan α} {v : Value} {a : α} (h : Takes x v a) (hdepth : v.depth < depth)
    {after : List Char} (hafter : Stops after) : Reads x depth (v.writeBefore after) a after :=
  (h.takesAt (by omega) after hafter).reads hdepth

/-- A value is read from its own text, where that nests less deep than a reader goes. -/
theorem Takes.whole_eq_ok {x : Scan α} {v : Value} {a : α} (h : Takes x v a) (hdepth : v.depth < 128) :
    whole x v.text = .ok a := by
  have htext : v.text.toList = v.writeBefore [] := String.toList_ofList
  have hreads : Reads x 128 v.text.toList a [] := htext ▸ h.reads hdepth stops_nil
  exact hreads.whole

/-- A text that nests deeper is refused. -/
theorem Takes.whole_eq_error {x : Scan α} {v : Value} {a : α} (h : Takes x v a)
    (hdepth : 128 ≤ v.depth) : ∃ fault, whole x v.text = .error fault := by
  have htext : v.text.toList = v.writeBefore [] := String.toList_ofList
  have hrefuses : Refuses x 128 (v.writeBefore []) :=
    (h.takesAt (by omega) [] stops_nil).refuses hdepth
  exact (htext ▸ hrefuses : Refuses x 128 v.text.toList).whole

theorem takes_value {v : Value} (h : v.IsPlain) : Takes value v v where
  plain := h
  takesAt hdepth after hafter := by
    obtain ⟨level, rfl⟩ := Nat.exists_eq_add_one.mpr hdepth
    exact reads_read.bind_needs (takesAt_valueAt h level after hafter)

theorem reads_stringAs {wanted : String} (s : String) (after : List Char) :
    Reads (stringAs wanted) depth (writeString s after) s after :=
  (reads_peekPastGap rfl).bind (reads_quotedString s after)

theorem takes_string (s : String) : Takes string (.string s) s where
  plain := .string s
  takesAt hdepth after _ := (reads_stringAs s after).needs hdepth

theorem toNat_lt_size (n : UInt32) : n.toNat < UInt64.size :=
  Nat.lt_trans n.toNat_lt (by decide)

theorem takes_word32 (n : UInt32) : Takes word32 (.natural n.toNat) n where
  plain := .natural (toNat_lt_size n)
  takesAt {depth} hdepth after hafter := by
    have hnumber : Reads number depth (Nat.toDigits 10 n.toNat ++ after) (.natural n.toNat) after :=
      reads_number (toNat_lt_size n) hafter
    obtain ⟨c, cs, hcs, hc⟩ := exists_toDigits_eq n.toNat
    refine Reads.needs hdepth ?_
    rw [Value.writeBefore_natural]
    rw [hcs] at hnumber ⊢
    -- A digit shows that a number comes.
    refine (reads_peekPastGap (ne_of_isDigit hc).1).bind ?_
    dsimp only
    rw [hc, Bool.or_true, if_pos rfl]
    refine (hnumber.bind ?_).located
    rw [toWord32_natural]
    exact reads_pure n

theorem takes_bool (b : Bool) : Takes bool (.bool b) b where
  plain := .bool b
  takesAt hdepth after _ := by
    refine Reads.needs hdepth ?_
    cases b with
    | true =>
      refine (reads_peekPastGap rfl).bind (reads_true.bind ?_)
      exact reads_pure true
    | false =>
      refine (reads_peekPastGap rfl).bind (reads_false.bind ?_)
      exact reads_pure false

theorem takes_list {item : Scan α} {vs : List Value} {as : List α}
    (h : List.Forall₂ (Takes item) vs as) : Takes (list item) (.array vs) as := by
  have hplain : ∀ v ∈ vs, v.IsPlain := by
    induction h with
    | nil => exact fun v hv => absurd hv List.not_mem_nil
    | cons hv _ ih => exact List.forall_mem_cons.mpr ⟨hv.plain, ih⟩
  refine ⟨.array hplain, fun {depth} hdepth after hafter => ?_⟩
  have hall : 1 < depth → List.Forall₂ (TakesAt (depth - 1) item) vs as :=
    fun hlevel => h.imp fun _ _ htakes => htakes.takesAt (by omega)
  exact (reads_peekPastGap rfl).bind_needs ((takesAt_items hplain hall).located after hafter)

/-! ### Maps and records -/

theorem plain_of_forall₂ {value : Scan α} {es : List (String × Value)} {rs : List (String × α)}
    (h : List.Forall₂ (fun e r => e.1 = r.1 ∧ Takes value e.2 r.2) es rs) :
    ∀ e ∈ es, e.2.IsPlain := by
  induction h with
  | nil => exact fun e he => absurd he List.not_mem_nil
  | cons he _ ih => exact List.forall_mem_cons.mpr ⟨he.2.plain, ih⟩

theorem takes_map {value : Scan α} {es : List (String × Value)} {rs : List (String × α)}
    (h : List.Forall₂ (fun e r => e.1 = r.1 ∧ Takes value e.2 r.2) es rs) :
    Takes (map value) (.object es) rs := by
  refine ⟨.object (plain_of_forall₂ h), fun {depth} hdepth after hafter => ?_⟩
  have hall : 1 < depth →
      List.Forall₂ (fun e r => e.1 = r.1 ∧ TakesAt (depth - 1) value e.2 r.2) es rs :=
    fun hlevel => h.imp fun _ _ htakes => ⟨htakes.1, htakes.2.takesAt (by omega)⟩
  exact (reads_peekPastGap rfl).bind_needs ((takesAt_entries hall).located after hafter)

/-- Null is read as nothing. -/
theorem takes_nullable_null {value : Scan α} : Takes (nullable value) .null none where
  plain := .null
  takesAt hdepth after _ := by
    refine Reads.needs hdepth ((reads_peekPastGap rfl).bind (reads_null.bind ?_))
    exact reads_pure none

theorem Takes.nullable_object {value : Scan α} {es : List (String × Value)} {a : α}
    (h : Takes value (.object es) a) : Takes (nullable value) (.object es) (some a) where
  plain := h.plain
  takesAt hdepth after hafter :=
    (reads_peekPastGap rfl).bind_needs (h.takesAt hdepth after hafter).map

theorem plain_of_fills {fields : List (Field Scan δ)} {es : List (String × Value)} {draft last : δ}
    (h : Fills Takes fields es draft last) : ∀ e ∈ es, e.2.IsPlain := by
  induction h with
  | nil => exact fun e he => absurd he List.not_mem_nil
  | cons _ _ htakes _ ih => exact List.forall_mem_cons.mpr ⟨htakes.plain, ih⟩

theorem needs_byKeys {fields : List (Field Scan δ)} {es : List (String × Value)} {draft last : δ}
    (hdepth : 0 < depth) (h : Fills (TakesAt depth) fields es draft last) (after : List Char) :
    ∀ (fuel : Nat) (first : Bool), es.length < fuel →
      Needs (depthOfEntries es) (byKeys fields fuel first draft) depth
        (entriesFrom first es ('\x7d' :: after)) last ('\x7d' :: after) := by
  induction h with
  | nil draft =>
    intro fuel first hfuel
    obtain _ | fuel := fuel
    · simp at hfuel
    exact ((reads_hasEntry_nil first after).bind (reads_pure draft)).needs hdepth
  | @cons key v es field draft next last hfield hempty htakes hrest ih =>
    intro fuel first hfuel
    obtain _ | fuel := fuel
    · simp at hfuel
    refine (reads_hasEntry_cons key v es first _).bind_needs
      ((reads_quotedString key _).bind_needs ?_)
    -- The field of the key is empty yet, so nothing is said twice.
    rw [hfield]
    dsimp only
    rw [hempty, if_neg Bool.false_ne_true]
    exact reads_colon.bind_needs ((htakes _ (stops_moreEntries es after)).bind
      (ih fuel false (Nat.lt_of_succ_lt_succ hfuel)))

theorem takes_record {layout : Layout Scan δ α} {es : List (String × Value)} {a : α} (draft : δ)
    (h : Fills Takes layout.fields es layout.blank draft) (ha : layout.finishByKeys draft = .ok a) :
    Takes (record layout) (.object es) a := by
  refine ⟨.object (plain_of_fills h), fun {depth} hdepth after hafter => ?_⟩
  refine (reads_peekPastGap rfl).bind_needs ((takesAt_object fun hlevel after => ?_).located after hafter)
  have hfills : Fills (TakesAt (depth - 1)) layout.fields es layout.blank draft :=
    h.imp fun _ _ _ htakes => htakes.takesAt (by omega)
  refine reads_bound.bind_needs ((needs_byKeys (by omega) hfills after _ true ?_).bind_reads ?_)
  · have hlength := length_le_writeEntries es ('\x7d' :: after)
    omega
  · rw [ha]
    exact reads_pure a

/-! ### Choices -/

theorem reads_kind {c : Choice α} {name : String} {found : Content α}
    (hname : c.variants.lookup name = some found) (after : List Char) :
    Reads (kind c) depth (writeString name after) found after := by
  refine (reads_peekPastGap rfl).bind ((reads_stringAs name after).bind ?_).located
  rw [ofName_eq_ok hname]
  exact reads_pure found

theorem reads_relevantKey_nil {c : Choice α} (fuel : Nat) (first : Bool) (after : List Char) :
    Reads (relevantKey c (fuel + 1) first) depth (entriesFrom first [] ('\x7d' :: after)) none
      ('\x7d' :: after) :=
  (reads_hasEntry_nil first after).bind (reads_pure none)

theorem reads_relevantKey_cons {c : Choice α} {key : String}
    (hkey : key = c.kindKey ∨ key = c.contentKey) (v : Value) (es : List (String × Value))
    (fuel : Nat) (first : Bool) (after : List Char) :
    Reads (relevantKey c (fuel + 1) first) depth (entriesFrom first ((key, v) :: es) after) (some key)
      (':' :: v.writeBefore (moreEntries es after)) := by
  have hrelevant : (key == c.kindKey || key == c.contentKey) = true := by
    rw [Bool.or_eq_true, beq_iff_eq, beq_iff_eq]
    exact hkey
  refine (reads_hasEntry_cons key v es first after).bind ((reads_quotedString key _).bind ?_)
  rw [if_pos hrelevant]
  exact reads_pure _

theorem reads_noMore {c : Choice α} (after : List Char) :
    Reads (noMore c) depth ('\x7d' :: after) () ('\x7d' :: after) := by
  refine reads_bound.bind ((reads_relevantKey_nil _ false after).bind ?_)
  exact reads_pure ()

theorem takes_choice {c : Choice α} {es : List (String × Value)} {a : α}
    (hplain : ∀ e ∈ es, e.2.IsPlain) (hflat : depthOfEntries es = 0)
    (h : ∀ depth after, Reads (choiceByKeys c) depth (writeEntries es ('\x7d' :: after)) a
      ('\x7d' :: after)) : Takes (choice c) (.object es) a := by
  refine ⟨.object hplain, fun {depth} hdepth after hafter => ?_⟩
  refine (reads_peekPastGap rfl).bind_needs ((takesAt_object fun hlevel after => ?_).located after hafter)
  rw [hflat]
  exact (h (depth - 1) after).needs (by omega)

theorem takes_kind {c : Choice α} {name label : String} {a : α}
    (hname : c.variants.lookup name = some (.none label a)) :
    Takes (choice c) (.object [(c.kindKey, .string name)]) a := by
  refine takes_choice (List.forall_mem_singleton.mpr (.string name)) rfl fun depth after => ?_
  refine reads_bound.bind ((reads_relevantKey_cons (Or.inl rfl) (.string name) [] _ true _).bind ?_)
  dsimp only
  rw [beq_self_eq_true, if_pos rfl]
  refine reads_colon.bind ((reads_kind hname _).bind (reads_bound.bind ?_))
  refine (reads_relevantKey_nil _ false after).bind ?_
  exact reads_pure a

theorem takes_kindWithString {c : Choice α} {name : String} {f : String → α} (s : String)
    (hkeys : c.kindKey ≠ c.contentKey) (hname : c.variants.lookup name = some (.string f)) :
    Takes (choice c) (.object [(c.kindKey, .string name), (c.contentKey, .string s)]) (f s) := by
  have hplain : ∀ e ∈ [(c.kindKey, Value.string name), (c.contentKey, Value.string s)],
      e.2.IsPlain :=
    List.forall_mem_cons.mpr ⟨.string name, List.forall_mem_singleton.mpr (.string s)⟩
  have hother : (c.contentKey == c.kindKey) = false := beq_false_of_ne hkeys.symm
  refine takes_choice hplain rfl fun depth after => ?_
  refine reads_bound.bind ((reads_relevantKey_cons (c := c) (Or.inl rfl) (.string name)
    [(c.contentKey, .string s)] _ true _).bind ?_)
  dsimp only
  rw [beq_self_eq_true, if_pos rfl]
  refine reads_colon.bind ((reads_kind hname _).bind (reads_bound.bind ?_))
  refine (reads_relevantKey_cons (c := c) (Or.inr rfl) (.string s) [] _ false _).bind ?_
  dsimp only
  rw [hother, if_neg Bool.false_ne_true]
  have hcontent : Reads (content c (.string f)) depth
      (writeString s (moreEntries [] ('\x7d' :: after))) (f s) ('\x7d' :: after) :=
    (reads_stringAs s _).bind (reads_pure (f s))
  refine reads_colon.bind (hcontent.bind ((reads_noMore after).bind ?_))
  exact reads_pure (f s)

/-! ### Kinds among the fields -/

theorem reads_kindName {variants : List (String × β)} {name : String} {b : β}
    (hname : ofName variants name = .ok b) (after : List Char) :
    Reads (kindName variants) depth (writeString name after) b after := by
  refine ((reads_stringAs name after).bind ?_).located
  rw [hname]
  exact reads_pure b

/-- Once the kind is known, the entries that are left are kept as they are. -/
theorem needs_gather {kindKey : String} {variants : List (String × β)} {b : β}
    {es : List (String × Value)} (hdepth : 0 < depth) (hplain : ∀ e ∈ es, e.2.IsPlain)
    (hkeys : ∀ e ∈ es, e.1 ≠ kindKey) (after : List Char) :
    ∀ (fuel : Nat) (first : Bool) (before : List (String × Value)), es.length < fuel →
      Needs (depthOfEntries es) (kindWithFields.gather kindKey variants fuel first (some b) before)
        depth (entriesFrom first es ('\x7d' :: after)) (b, .object (before.reverse ++ es))
        ('\x7d' :: after) := by
  induction es with
  | nil =>
    intro fuel first before hfuel
    obtain _ | fuel := fuel
    · simp at hfuel
    rw [List.append_nil]
    exact ((reads_hasEntry_nil first after).bind (reads_pure (b, _))).needs hdepth
  | cons e es ih =>
    intro fuel first before hfuel
    obtain _ | fuel := fuel
    · simp at hfuel
    obtain ⟨hv, hvs⟩ := List.forall_mem_cons.mp hplain
    obtain ⟨hkey, hothers⟩ := List.forall_mem_cons.mp hkeys
    obtain ⟨key, v⟩ := e
    have hrest := ih hvs hothers fuel false ((key, v) :: before) (Nat.lt_of_succ_lt_succ hfuel)
    rw [List.reverse_cons, List.append_assoc, List.singleton_append] at hrest
    refine (reads_hasEntry_cons key v es first _).bind_needs
      ((reads_quotedString key _).bind_needs ?_)
    rw [beq_false_of_ne hkey, if_neg Bool.false_ne_true]
    exact reads_colon.bind_needs
      (((takes_value hv).takesAt hdepth _ (stops_moreEntries es after)).bind hrest)

/-- A value whose kind comes first is read as its kind and its other fields. -/
theorem takes_kindWithFields {variants : List (String × β)} {label kindKey name : String} {b : β}
    {es : List (String × Value)} (hname : ofName variants name = .ok b)
    (hplain : ∀ e ∈ es, e.2.IsPlain) (hkeys : ∀ e ∈ es, e.1 ≠ kindKey) :
    Takes (kindWithFields label kindKey variants) (.object ((kindKey, .string name) :: es))
      (b, .object es) := by
  refine ⟨.object (List.forall_mem_cons.mpr ⟨.string name, hplain⟩), ?_⟩
  intro depth hdepth after hafter
  refine (reads_peekPastGap rfl).bind_needs ((takesAt_object fun hlevel after => ?_).located after hafter)
  have hrest : Needs (depthOfEntries es)
      (kindWithFields.gather kindKey variants ((writeEntries ((kindKey, .string name) :: es)
        ('\x7d' :: after)).length * 2 + 1) false (some b) []) (depth - 1)
      (entriesFrom false es ('\x7d' :: after)) (b, .object es) ('\x7d' :: after) := by
    refine needs_gather (by omega) hplain hkeys after _ false [] ?_
    have hlength := length_le_writeEntries ((kindKey, .string name) :: es) ('\x7d' :: after)
    rw [List.length_cons] at hlength
    omega
  rw [show depthOfEntries ((kindKey, Value.string name) :: es) = depthOfEntries es from Nat.zero_max _]
  refine reads_bound.bind_needs ?_
  rw [Nat.mul_comm]
  refine (reads_hasEntry_cons kindKey (.string name) es true _).bind_needs
    ((reads_quotedString kindKey _).bind_needs ?_)
  rw [beq_self_eq_true, if_pos rfl, Option.isSome_none, if_neg Bool.false_ne_true]
  exact reads_colon.bind_needs ((reads_kindName hname _).bind_needs hrest)

instance : FaithfulSource Scan where
  Takes := Takes
  map g h := h.map g
  string := takes_string
  word32 := takes_word32
  list := takes_list
  record := takes_record
  kind := takes_kind
  kindWithString := takes_kindWithString

end Scan

/-! ## Kept values -/

namespace Kept

variable {α β δ : Type}

/-- The reader makes `a` of the value. -/
def Takes (x : Kept α) (v : Value) (a : α) : Prop :=
  x v = .ok a

theorem Takes.map {x : Kept α} {v : Value} {a : α} (g : α → β) (h : Takes x v a) :
    Takes (g <$> x) v (g a) := by
  show Except.map g (x v) = .ok (g a)
  rw [show x v = .ok a from h]
  rfl

theorem takes_word32 (n : UInt32) : Takes word32 (.natural n.toNat) n :=
  toWord32_natural n

theorem takes_list {item : Kept α} {vs : List Value} {as : List α}
    (h : List.Forall₂ (Takes item) vs as) : Takes (list item) (.array vs) as := by
  -- The items are read one by one whatever value is at hand.
  show vs.mapM (m := Kept) (fun v => liftM (item v)) (.array vs) = .ok as
  generalize Value.array vs = whole
  induction h with
  | nil => rfl
  | @cons v a vs as hv _ ih =>
    rw [List.mapM_cons]
    show (item v >>= fun a => vs.mapM (m := Kept) (fun v => liftM (item v)) whole >>= fun as =>
      .ok (a :: as)) = _
    rw [ih, show item v = .ok a from hv]
    rfl

theorem byKeys_eq_ok {fields : List (Field Kept δ)} {es : List (String × Value)} {draft last : δ}
    (h : Fills Takes fields es draft last) : byKeys fields es draft = .ok last := by
  induction h with
  | nil draft => rfl
  | @cons key v es field draft next last hfield hempty htakes hrest ih =>
    unfold byKeys
    rw [hfield]
    dsimp only
    rw [hempty, if_neg Bool.false_ne_true, show field.read draft v = .ok next from htakes]
    exact ih

theorem takes_record {layout : Layout Kept δ α} {es : List (String × Value)} {a : α} (draft : δ)
    (h : Fills Takes layout.fields es layout.blank draft) (ha : layout.finishByKeys draft = .ok a) :
    Takes (record layout) (.object es) a := by
  show (byKeys layout.fields es layout.blank >>= layout.finishByKeys) = .ok a
  rw [byKeys_eq_ok h]
  exact ha

theorem read_bind (f : Value → Kept α) (v : Value) : (read >>= f) v = f v v := rfl

theorem lift_bind (x : Except Cause α) (f : α → Kept β) (v : Value) :
    ((liftM x : Kept α) >>= f) v = x >>= fun a => f a v := rfl

theorem kind_eq_ok {c : Choice α} {name : String} {found : Content α}
    (hname : c.variants.lookup name = some found) : kind c (.string name) = .ok found :=
  ofName_eq_ok hname

theorem relevant_cons {c : Choice α} {key : String} (hkey : key = c.kindKey ∨ key = c.contentKey)
    (v : Value) (es : List (String × Value)) : relevant c ((key, v) :: es) = (key, v) :: es := by
  unfold relevant
  obtain rfl | rfl := hkey
  · simp
  · simp

theorem takes_kind {c : Choice α} {name label : String} {a : α}
    (hname : c.variants.lookup name = some (.none label a)) :
    Takes (choice c) (.object [(c.kindKey, .string name)]) a := by
  unfold Takes choice
  rw [read_bind]
  dsimp only
  rw [relevant_cons (Or.inl rfl)]
  dsimp only
  rw [beq_self_eq_true, if_pos rfl, lift_bind, kind_eq_ok hname]
  rfl

theorem takes_kindWithString {c : Choice α} {name : String} {f : String → α} (s : String)
    (hkeys : c.kindKey ≠ c.contentKey) (hname : c.variants.lookup name = some (.string f)) :
    Takes (choice c) (.object [(c.kindKey, .string name), (c.contentKey, .string s)]) (f s) := by
  have hother : (c.contentKey == c.kindKey) = false := beq_false_of_ne hkeys.symm
  unfold Takes choice
  rw [read_bind]
  dsimp only
  rw [relevant_cons (Or.inl rfl)]
  dsimp only
  rw [beq_self_eq_true, if_pos rfl, lift_bind, kind_eq_ok hname]
  dsimp only [bind, Except.bind]
  rw [relevant_cons (Or.inr rfl)]
  dsimp only
  rw [hother, if_neg Bool.false_ne_true]
  rfl

/-! ### Kinds among the fields -/

theorem gather_eq_ok {kindKey : String} {variants : List (String × β)} {b : β}
    {es : List (String × Value)} (hkeys : ∀ e ∈ es, e.1 ≠ kindKey) (before : List (String × Value)) :
    gather kindKey variants es (some b) before = .ok (b, .object (before.reverse ++ es)) := by
  induction es generalizing before with
  | nil =>
    rw [List.append_nil]
    rfl
  | cons e es ih =>
    obtain ⟨hkey, hothers⟩ := List.forall_mem_cons.mp hkeys
    obtain ⟨key, v⟩ := e
    unfold gather
    rw [beq_false_of_ne hkey, if_neg Bool.false_ne_true, ih hothers, List.reverse_cons,
      List.append_assoc, List.singleton_append]

theorem takes_kindWithFields {variants : List (String × β)} {label kindKey name : String} {b : β}
    {es : List (String × Value)} (hname : ofName variants name = .ok b)
    (hkeys : ∀ e ∈ es, e.1 ≠ kindKey) :
    Takes (kindWithFields label kindKey variants) (.object ((kindKey, .string name) :: es))
      (b, .object es) := by
  show gather kindKey variants ((kindKey, .string name) :: es) none [] = .ok (b, .object es)
  unfold gather
  rw [beq_self_eq_true, if_pos rfl]
  show ((ofName variants name : Except Cause β) >>= fun b => gather kindKey variants es (some b) []) = _
  rw [hname]
  exact gather_eq_ok hkeys []

instance : FaithfulSource Kept where
  Takes := Takes
  map g h := h.map g
  string _ := rfl
  word32 := takes_word32
  list := takes_list
  record := takes_record
  kind := takes_kind
  kindWithString := takes_kindWithString

end Kept

end ComponentTags.Json
