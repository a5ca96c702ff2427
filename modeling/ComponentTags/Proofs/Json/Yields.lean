import ComponentTags.Proofs.Json.Reading

/-!
# What comes of a text

`Yields x P` says that whatever `x` makes of a text, at any depth, has the property `P`; where `x` fails
nothing is said. The property of a record comes from an invariant of its drafts: the blank draft has it, and
reading a field keeps it (`Yields.record`).
-/

namespace ComponentTags.Json.Scan

variable {α β δ : Type}

/-- Whatever the reader makes of a text has the property. -/
def Yields (x : Scan α) (P : α → Prop) : Prop :=
  ∀ (depth : Nat) (c : Cursor) (a : α) (d : Cursor), x.runAt depth c = (.ok a, d) → P a

variable {x : Scan α} {f : α → Scan β} {P : α → Prop} {Q : β → Prop}

theorem yields_trivial : Yields x fun _ => True :=
  fun _ _ _ _ _ => trivial

theorem yields_pure {a : α} (h : P a) : Yields (pure a) P := by
  intro depth c b d hrun
  obtain ⟨hb, -⟩ := Prod.mk.inj hrun
  exact Except.ok.inj hb ▸ h

theorem Yields.bind (hx : Yields x P) (hf : ∀ a, P a → Yields (f a) Q) : Yields (x >>= f) Q := by
  intro depth c b d hrun
  rw [runAt_bind] at hrun
  split at hrun
  · next a next hstep => exact hf a (hx depth c a next hstep) depth next b d hrun
  · cases hrun

/-- Only the last of two readers counts if it yields the property whatever came before. -/
theorem Yields.bind_of_forall (hf : ∀ a, Yields (f a) Q) : Yields (x >>= f) Q :=
  yields_trivial.bind fun a _ => hf a

theorem Yields.map {g : α → β} (hx : Yields x P) (hg : ∀ a, P a → Q (g a)) : Yields (g <$> x) Q := by
  rw [map_eq_pure_bind]
  exact hx.bind fun a ha => yields_pure (hg a ha)

/-! ## Failures -/

theorem yields_reject {cause : Cause} : Yields (reject cause) P :=
  fun _ _ _ _ hrun => nomatch hrun

theorem yields_failAhead {cause : Cause} : Yields (failAhead cause) P :=
  fun _ _ _ _ hrun => nomatch hrun

theorem yields_ofExcept {result : Except Cause α} (h : ∀ a, result = .ok a → P a) :
    Yields (ofExcept result) P := by
  cases result with
  | ok a => exact yields_pure (h a rfl)
  | error cause => exact yields_reject

theorem yields_attempt (hx : Yields x P) :
    Yields (attempt x) fun result => ∀ a, result = .ok a → P a := by
  intro depth c result d hrun a ha
  rw [runAt_attempt] at hrun
  obtain ⟨hresult, -⟩ := Prod.mk.inj hrun
  refine hx depth c a (x.runAt depth c).2 (Prod.ext ?_ rfl)
  rw [Except.ok.inj hresult, ha]

theorem yields_throw {fault : Fault} : Yields (throw fault : Scan α) P :=
  fun _ _ _ _ hrun => nomatch hrun

theorem Yields.located (hx : Yields x P) : Yields (located x) P := by
  refine (yields_attempt hx).bind fun result hresult => ?_
  cases result with
  | ok a => exact yields_pure (hresult a rfl)
  | error fault =>
    dsimp only
    split
    · exact yields_throw
    · exact .bind_of_forall fun c => yields_throw

theorem yields_wrongType {wanted : String} : Yields (wrongType wanted : Scan α) P := by
  have hreject (found : Found) : Yields (reject (.invalidType found wanted) : Scan α) P := yields_reject
  refine Yields.located (.bind_of_forall fun next => ?_)
  -- Whatever is found is refused.
  dsimp only
  split
  case h_1 | h_2 | h_3 => exact .bind_of_forall fun _ => .bind_of_forall hreject
  case h_7 => split <;> exact .bind_of_forall hreject
  all_goals exact .bind_of_forall hreject

theorem Yields.bracketed {close : Scan Unit} (hx : Yields x P) : Yields (bracketed close x) P := by
  refine .bind_of_forall fun depth => ?_
  split
  · exact yields_failAhead
  have hinside : Yields (fun _ => x (depth - 1)) P := fun _ => hx (depth - 1)
  refine .bind_of_forall fun _ => (yields_attempt hinside).bind fun result hresult => ?_
  refine .bind_of_forall fun closed => ?_
  split
  · next a => exact yields_pure (hresult a rfl)
  · exact yields_throw
  · exact yields_throw

/-! ## Records -/

variable {fields : List (Field Scan δ)} {layout : Layout Scan δ α} {I : δ → Prop}

theorem yields_inTurn (hfields : ∀ field ∈ fields, ∀ draft, I draft → Yields (field.read draft) I)
    {first : Bool} {draft : δ} (hdraft : I draft) : Yields (inTurn fields first draft) I := by
  induction fields generalizing first draft with
  | nil => exact yields_pure hdraft
  | cons field fields ih =>
    obtain ⟨hfield, hothers⟩ := List.forall_mem_cons.mp hfields
    refine .bind_of_forall fun more => ?_
    split
    · exact (hfield draft hdraft).bind fun next hnext => ih hothers hnext
    · exact yields_pure hdraft

theorem yields_byKeys (hfields : ∀ field ∈ fields, ∀ draft, I draft → Yields (field.read draft) I)
    {fuel : Nat} {first : Bool} {draft : δ} (hdraft : I draft) :
    Yields (byKeys fields fuel first draft) I := by
  induction fuel generalizing first draft with
  | zero => exact yields_pure hdraft
  | succ fuel ih =>
    refine .bind_of_forall fun more => ?_
    split
    case isFalse => exact yields_pure hdraft
    refine .bind_of_forall fun key => ?_
    split
    · next field hfound =>
      split
      · exact yields_reject
      have hfield := hfields field (List.mem_of_find?_eq_some hfound) draft hdraft
      exact .bind_of_forall fun _ => hfield.bind fun next hnext => ih hnext
    · exact .bind_of_forall fun _ => .bind_of_forall fun _ => ih hdraft

/-- What is made of a record has the property, if an invariant of its drafts amounts to that. -/
theorem Yields.record (hblank : I layout.blank)
    (hfields : ∀ field ∈ layout.fields, ∀ draft, I draft → Yields (field.read draft) I)
    (hfinish : ∀ missing draft a, I draft → layout.finish missing draft = .ok a → P a) :
    Yields (record layout) P := by
  refine .bind_of_forall fun next => ?_
  split
  · refine ((yields_inTurn hfields hblank).bind fun draft hdraft => ?_).bracketed.located
    exact yields_ofExcept fun a => hfinish _ draft a hdraft
  · refine (Yields.bind_of_forall fun fuel => ?_).bracketed.located
    refine (yields_byKeys hfields hblank).bind fun draft hdraft => ?_
    exact yields_ofExcept fun a => hfinish _ draft a hdraft
  · exact yields_wrongType
  · exact yields_failAhead

/-! ## Whole texts -/

theorem Yields.of_whole {s : String} {a : α} (hx : Yields x P) (h : whole x s = .ok a) : P a := by
  obtain ⟨close, hclose, hwhole⟩ : ∃ close : α → Scan α, (∀ a, Yields (close a) (· = a)) ∧
      whole x s = ((x >>= close).runAt 128 (Cursor.start s)).1 := by
    -- After the value the end of the text is asked for, and the value is given on.
    refine ⟨_, fun a => ?_, rfl⟩
    refine .bind_of_forall fun next => ?_
    split
    · exact yields_pure rfl
    · exact yields_failAhead
  have hvalue : Yields (x >>= close) P := by
    refine hx.bind fun a ha depth c b d hrun => ?_
    rwa [hclose a depth c b d hrun]
  exact hvalue 128 (Cursor.start s) a _ (Prod.ext (hwhole ▸ h) rfl)

end ComponentTags.Json.Scan
