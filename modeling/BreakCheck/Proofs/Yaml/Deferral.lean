/-
BreakCheck/Proofs/Yaml/Deferral.lean

Checks that are put off.

A value can be checked while it is read, or behind everything else.  In the first case the
reading ends with a value that does not pass, in the second it goes on, and may yet fail for
another reason.  `Defers` says that this is the only difference between two steps: where the
one without the check has no value, neither has the other, and where it has one, the other has
the value that corresponds to it, or reports what is wrong with it.

The relation is kept by one step behind another (`Defers.bind`), so it holds of records if it
holds of their fields.  Only one field may put its check off: it is not taken twice, so what
is wrong with it stays wrong whatever the other fields are (`ends_entries`).

Main result: `defers_record`.
-/
import BreakCheck.Proofs.Attempt
import BreakCheck.Proofs.Yaml.Given

namespace BreakCheck.Yaml.Reader

variable {α β γ δ σ τ : Type}

/-! ### Results of steps -/

theorem result_pure (value : α) (followed : Nat) :
    result (pure value) followed = .ok (value, followed) := rfl

theorem result_throw (error : Error) (followed : Nat) :
    result (throw error : Effect α) followed = .error error := rfl

/-- The second step goes on with the value and the count of references that the first one
leaves. -/
theorem result_bind (step : Effect α) (next : α → Effect β) (followed : Nat) :
    result (step >>= next) followed
      = result step followed >>= fun reached => result (next reached.1) reached.2 :=
  Attempt.value_bind _ _

theorem result_lift (attempt : Attempt Error α) (followed : Nat) :
    result (monadLift attempt) followed
      = attempt.outcome.value.map fun value => (value, followed) := by
  show (Attempt.outcome (attempt >>= fun value => pure (value, followed))).value = _
  rw [Attempt.value_bind]
  cases attempt.outcome.value <;> rfl

/-- **Wherever a step has a value**, this holds of it. -/
def Ends (step : Effect α) (holds : α → Prop) : Prop :=
  ∀ followed value followed', result step followed = .ok (value, followed') → holds value

theorem ends_any (step : Effect α) : Ends step fun _ => True := fun _ _ _ _ => trivial

theorem ends_pure {holds : α → Prop} {value : α} (held : holds value) :
    Ends (pure value) holds := by
  intro followed value' followed' done
  rw [result_pure] at done
  cases done
  exact held

theorem ends_throw {holds : α → Prop} (error : Error) : Ends (throw error) holds := by
  intro followed value followed' done
  rw [result_throw] at done
  cases done

/-- A property of results passes from one step to the next. -/
theorem Ends.bind {step : Effect α} {holds : α → Prop} {next : α → Effect β}
    {holds' : β → Prop} (first : Ends step holds)
    (second : ∀ value, holds value → Ends (next value) holds') : Ends (step >>= next) holds' := by
  intro followed value followed' done
  rw [result_bind] at done
  cases reached : result step followed with
  | error error =>
    rw [reached] at done
    cases done
  | ok reached' =>
    rw [reached] at done
    exact second _ (first _ _ _ reached) _ _ _ done

/-! ### With and without a check -/

/-- **What two results have to do with each other** if only the second one is checked.  `sound`
says of two values that they correspond, `faulty` what is wrong with a value. -/
def Judged (path : Path) (sound : α → β → Prop) (faulty : SchemaError → α → Prop) :
    Except Error (α × Nat) → Except Error (β × Nat) → Prop
  | .ok (value, followed), .ok (value', followed') => sound value value' ∧ followed = followed'
  | .ok (value, _), .error error => ∃ why, error = .data path (.schema why) ∧ faulty why value
  | .error _, .ok _ => False
  | .error _, .error _ => True

namespace Judged

variable {path : Path} {judge : α → Except SchemaError β} {late : Except Error (α × Nat)}
  {early : Except Error (β × Nat)}

/-- **The check was passed early if it is passed late**, and only then. -/
theorem eq_ok_iff (judged : Judged path (fun value value' => judge value = .ok value')
      (fun why value => judge value = .error why) late early) (value' : β) (followed : Nat) :
    early = .ok (value', followed)
      ↔ ∃ value, late = .ok (value, followed) ∧ judge value = .ok value' := by
  constructor
  · rintro rfl
    cases late with
    | error error => cases judged
    | ok reached =>
      obtain ⟨value, behind⟩ := reached
      obtain ⟨right, rfl⟩ := judged
      exact ⟨value, rfl, right⟩
  · rintro ⟨value, rfl, right⟩
    cases early with
    | ok reached' =>
      obtain ⟨value'', behind⟩ := reached'
      obtain ⟨right', rfl⟩ := judged
      cases right.symm.trans right'
      rfl
    | error error =>
      obtain ⟨why, -, wrong⟩ := judged
      cases right.symm.trans wrong

/-- **What fails the check late** is what was reported early. -/
theorem eq_error (judged : Judged path (fun value value' => judge value = .ok value')
      (fun why value => judge value = .error why) late early) {value : α} {followed : Nat}
    {why : SchemaError} (read : late = .ok (value, followed)) (wrong : judge value = .error why) :
    early = .error (.data path (.schema why)) := by
  subst read
  cases early with
  | ok reached' =>
    obtain ⟨right, -⟩ := judged
    cases right.symm.trans wrong
  | error error =>
    obtain ⟨why', rfl, wrong'⟩ := judged
    cases wrong.symm.trans wrong'
    rfl

end Judged

/-- **The first of two steps puts a check off**, and this is all they differ in. -/
def Defers (path : Path) (sound : α → β → Prop) (faulty : SchemaError → α → Prop)
    (late : Effect α) (early : Effect β) : Prop :=
  ∀ followed, Judged path sound faulty (result late followed) (result early followed)

variable {path : Path} {sound : α → β → Prop} {faulty : SchemaError → α → Prop}
  {late : Effect α} {early : Effect β}

theorem defers_pure {value : α} {value' : β} (corresponds : sound value value') :
    Defers path sound faulty (pure value) (pure value') :=
  fun _ => ⟨corresponds, rfl⟩

theorem defers_throw (error error' : Error) :
    Defers path sound faulty (throw error) (throw error') := fun _ => trivial

/-- A step without any check. -/
theorem defers_same (step : Effect α) (path : Path) :
    Defers path Eq (fun _ _ => False) step step := by
  intro followed
  cases result step followed with
  | error error => exact trivial
  | ok reached => exact ⟨rfl, rfl⟩

/-- **One step behind another.**  Behind a value that is faulty there is only the step that
goes on with it, which must not make it sound. -/
theorem Defers.bind {sound' : γ → δ → Prop} {faulty' : SchemaError → γ → Prop}
    {next : α → Effect γ} {next' : β → Effect δ} (first : Defers path sound faulty late early)
    (sounds : ∀ value value', sound value value' →
      Defers path sound' faulty' (next value) (next' value'))
    (faults : ∀ why value, faulty why value → Ends (next value) (faulty' why)) :
    Defers path sound' faulty' (late >>= next) (early >>= next') := by
  intro followed
  have judged := first followed
  rw [result_bind, result_bind]
  generalize result late followed = lately at judged
  generalize result early followed = early at judged
  cases lately with
  | error error =>
    cases early with
    | error error' => exact trivial
    | ok reached' => cases judged
  | ok reached =>
    obtain ⟨value, behind⟩ := reached
    cases early with
    | ok reached' =>
      obtain ⟨value', behind'⟩ := reached'
      obtain ⟨corresponds, rfl⟩ := judged
      exact sounds value value' corresponds behind
    | error error =>
      obtain ⟨why, rfl, wrong⟩ := judged
      show Judged path sound' faulty' (result (next value) behind) (.error _)
      cases ended : result (next value) behind with
      | error error' => exact trivial
      | ok ended' => exact ⟨why, rfl, faults why value wrong _ _ _ ended⟩

theorem Defers.map {f : α → γ} {g : β → δ} {sound' : γ → δ → Prop}
    {faulty' : SchemaError → γ → Prop} (first : Defers path sound faulty late early)
    (sounds : ∀ value value', sound value value' → sound' (f value) (g value'))
    (faults : ∀ why value, faulty why value → faulty' why (f value)) :
    Defers path sound' faulty' (f <$> late) (g <$> early) := by
  rw [map_eq_pure_bind, map_eq_pure_bind]
  apply first.bind
  · intro value value' corresponds
    exact defers_pure (sounds value value' corresponds)
  · intro why value wrong
    exact ends_pure (faults why value wrong)

/-- **The check itself**, and a value that stands in its place. -/
theorem defers_check {value : α} {check : Attempt SchemaError β}
    (sounds : ∀ value', check.outcome.value = .ok value' → sound value value')
    (faults : ∀ why, check.outcome.value = .error why → faulty why value) :
    Defers path sound faulty (pure value)
      (monadLift (check.mapError fun error => Error.data path (.schema error))) := by
  intro followed
  rw [result_pure, result_lift, Attempt.outcome_mapError]
  cases judged : check.outcome.value with
  | ok value' => exact ⟨sounds value' judged, rfl⟩
  | error why => exact ⟨why, rfl, faults why judged⟩

/-! ### Records -/

variable {document : Document} {checked : String} {judge : σ → Except SchemaError τ}
  {fields : List (String × Reader (σ → σ))} {fields' : List (String × Reader (τ → τ))}

/-- **Two records read a field alike**, but for the check of one field.  `judge` is the check of
a whole record, which depends on that field alone. -/
structure FieldDefers (document : Document) (checked : String) (judge : σ → Except SchemaError τ)
    (field : String × Reader (σ → σ)) (field' : String × Reader (τ → τ)) : Prop where
  name : field.1 = field'.1
  reads : ∀ (context : Context) (tree : Tree), context.document = document →
    Defers context.path.tail
      (fun update update' => ∀ value value', judge value = .ok value' →
        judge (update value) = .ok (update' value'))
      (fun why update => field.1 = checked ∧ ∀ value, judge (update value) = .error why)
      (field.2 context tree) (field'.2 context tree)
  keeps : field.1 ≠ checked → ∀ (context : Context) (tree : Tree),
    Ends (field.2 context tree) fun update => ∀ why value, judge value = .error why →
      judge (update value) = .error why

/-- A field that the check does not look at. -/
theorem FieldDefers.alike {key : String} {read : Reader α} {put : α → σ → σ} {put' : α → τ → τ}
    (same : ∀ part value, judge (put part value) = (judge value).map (put' part)) :
    FieldDefers document checked judge (Decoder.field key read put)
      (Decoder.field key read put') where
  name := rfl
  reads context tree _ := by
    apply (defers_same (read context tree) context.path.tail).map
    · rintro part _ rfl value value' right
      rw [same, right]
      rfl
    · exact fun _ _ none => none.elim
  keeps _ context tree := by
    show Ends (put <$> read context tree) _
    rw [map_eq_pure_bind]
    refine (ends_any _).bind fun part _ => ends_pure fun why value wrong => ?_
    rw [same, wrong]
    rfl

/-- The field that is checked by one of two records where it is read, and by the other one
behind everything else. -/
theorem FieldDefers.deferred {late : Reader α} {early : Reader β} {put : α → σ → σ}
    {put' : β → τ → τ}
    (reads : ∀ (context : Context) (tree : Tree), context.document = document →
      Defers context.path.tail sound faulty (late context tree) (early context tree))
    (sounds : ∀ part part' value value', sound part part' → judge value = .ok value' →
      judge (put part value) = .ok (put' part' value'))
    (faults : ∀ why part value, faulty why part → judge (put part value) = .error why) :
    FieldDefers document checked judge (Decoder.field checked late put)
      (Decoder.field checked early put') where
  name := rfl
  reads context tree same := by
    apply (reads context tree same).map
    · intro part part' corresponds value value' right
      exact sounds part part' value value' corresponds right
    · intro why part wrong
      exact ⟨rfl, fun value => faults why part value wrong⟩
  keeps other := absurd rfl other

/-- **What is wrong with a field stays wrong** once the field has been taken. -/
theorem ends_entries (related : List.Forall₂ (FieldDefers document checked judge) fields fields')
    (context : Context) (pairs : List (Tree × Tree)) {seen : List String}
    (taken : checked ∈ seen) {value : σ} {why : SchemaError} (wrong : judge value = .error why) :
    Ends (entries fields context pairs seen value) fun value => judge value = .error why := by
  induction pairs generalizing seen value with
  | nil => exact ends_pure wrong
  | cons entry rest ih =>
    rw [entries]
    refine (ends_any _).bind fun name _ => ?_
    obtain ⟨unknown, -⟩ | ⟨read, read', known, -, field⟩ :=
      lookup_cases (fun _ _ related => related.name) related name
    · rw [unknown]
      exact (ends_any _).bind fun _ _ => ih taken wrong
    · rw [known]
      dsimp only
      split
      · exact ends_throw _
      next fresh =>
        have other : name ≠ checked := by
          rintro rfl
          exact fresh (List.contains_iff_mem.2 taken)
        refine (field.keeps other _ _).bind fun update keeps => ?_
        exact ih (List.mem_cons_of_mem _ taken) (keeps why value wrong)

/-- **The entries of records**, by induction on the entries.  As long as nothing is wrong the
two records correspond. -/
theorem defers_entries
    (related : List.Forall₂ (FieldDefers document checked judge) fields fields')
    (context : Context) (same : context.document = document) (pairs : List (Tree × Tree))
    (seen : List String) {value : σ} {value' : τ} (right : judge value = .ok value') :
    Defers context.path (fun value value' => judge value = .ok value')
      (fun why value => judge value = .error why)
      (entries fields context pairs seen value) (entries fields' context pairs seen value') := by
  induction pairs generalizing seen value value' with
  | nil => exact defers_pure right
  | cons entry rest ih =>
    rw [entries, entries]
    refine (defers_same _ _).bind ?_ fun _ _ none => none.elim
    rintro name _ rfl
    obtain ⟨unknown, unknown'⟩ | ⟨read, read', known, known', field⟩ :=
      lookup_cases (fun _ _ related => related.name) related name
    · rw [unknown, unknown']
      refine (defers_same _ _).bind ?_ fun _ _ none => none.elim
      exact fun _ _ _ => ih seen right
    · rw [known, known']
      dsimp only
      cases seen.contains name with
      | true => exact defers_throw _ _
      | false =>
        refine (field.reads (context.down _) _ same).bind ?_ ?_
        · intro update update' sound
          exact ih (name :: seen) (sound value value' right)
        · rintro why update ⟨rfl, wrong⟩
          exact ends_entries related context rest List.mem_cons_self (wrong value)

/-- **A record puts a check off if one of its fields does.** -/
theorem defers_record (checked : String) (judge : σ → Except SchemaError τ)
    (related : List.Forall₂ (FieldDefers document checked judge) fields fields')
    {blank : σ} {blank' : τ} (right : judge blank = .ok blank') (name name' : String)
    {context : Context} (same : context.document = document) (tree : Tree) :
    Defers context.path (fun value value' => judge value = .ok value')
      (fun why value => judge value = .error why)
      (record name blank fields context tree) (record name' blank' fields' context tree) := by
  rw [record, record]
  refine (defers_same _ _).bind ?_ fun _ _ none => none.elim
  rintro tree _ rfl
  have nothing (error error' : Error) :
      Defers context.path (fun value value' => judge value = .ok value')
        (fun why value => judge value = .error why)
        (if isNothing tree then pure blank else throw error)
        (if isNothing tree then pure blank' else throw error') := by
    split
    · exact defers_pure right
    · exact defers_throw _ _
  obtain ⟨document, path, levels⟩ := context
  cases tree with
  | mapping tag pairs =>
    cases levels with
    | zero => exact defers_throw _ _
    | succ levels => exact defers_entries related ⟨document, path, levels⟩ same pairs [] right
  | _ => exact nothing _ _

end BreakCheck.Yaml.Reader
