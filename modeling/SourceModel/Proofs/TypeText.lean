import SourceModel.Proofs.Outcome

namespace SourceModel

mutual
def TypeRef.written (f : String → String) : TypeRef → Fragment
  | .mk name arguments dimensions =>
    if name = "" then .absent
    else .present (f name ++
      (View.angleBrackets.join (TypeRef.writtenArguments f arguments)).textOrEmpty ++
      Text.repeated "[]" dimensions)
def TypeRef.writtenArguments (f : String → String) : List Generic → List Fragment
  | [] => []
  | g :: gs => Generic.written f g :: TypeRef.writtenArguments f gs
def Generic.written (f : String → String) : Generic → Fragment
  | .mk lower bounds keyword =>
    let upper := Fragment.join " & " (Generic.writtenBounds f bounds)
    match lower with
    | none => upper
    | some lower =>
      Fragment.join " " [.present lower, upper.map fun text => keyword.name ++ " " ++ text]
def Generic.writtenBounds (f : String → String) : List TypeRef → List Fragment
  | [] => []
  | t :: ts => TypeRef.written f t :: Generic.writtenBounds f ts
end

theorem Generic.written_ofType (f : String → String) (t : TypeRef) :
    (Generic.ofType t).written f = t.written f := by
  rw [Generic.ofType, Generic.written, Generic.writtenBounds, Generic.writtenBounds]
  cases t.written f with
  | absent => rfl
  | present text => simp [Fragment.join, Joiner.join, Fragment.texts, Fragment.text?]

theorem Generic.written_ofName (f : String → String) (name : String) :
    (Generic.ofName name).written f = .present name := by
  rw [Generic.ofName, Generic.written, Fragment.join_cons_present]
  rfl

theorem Generic.written_bounded {f : String → String} {ts : List TypeRef} {text : String}
    {texts : List String} (eq : Fragment.texts (Generic.writtenBounds f ts) = text :: texts)
    (lower : String) (keyword : BoundKeyword) :
    (Generic.mk (some lower) ts keyword).written f =
      .present (lower ++ " " ++ (keyword.name ++ " " ++ Text.joinWith " & " (text :: texts))) := by
  have upper : Fragment.join " & " (Generic.writtenBounds f ts) =
      .present (Text.joinWith " & " (text :: texts)) := by
    rw [Fragment.join, Joiner.join, eq]
    simp
  rw [Generic.written, upper]
  simp [Fragment.join, Joiner.join, Fragment.map, Fragment.texts, Fragment.text?,
    Text.joinWith_cons_cons]

structure Registry.WritesTypes (r : Registry) : Prop where
  type : ∀ t, r.lookup (.type t) = .ok View.type.renderer
  generic : ∀ g, r.lookup (.generic g) = .ok View.generic.renderer

theorem java_writesTypes : Dialect.java.registry.WritesTypes := ⟨fun _ => rfl, fun _ => rfl⟩

namespace Registry

variable {r : Registry} {formatting : Formatting} {scope : ImportScope}

mutual
theorem WritesTypes.outcome_type (views : r.WritesTypes) :
    ∀ (t : TypeRef) (depth : Nat), t.height ≤ depth →
      (r.dispatch formatting depth scope (.type t)).outcome = .ok (t.written scope.shortName)
  | .mk name arguments dimensions, depth, enough => by
    cases depth with
    | zero => simp [TypeRef.height] at enough
    | succ depth =>
      rw [outcome_dispatch_succ (views.type _)]
      have list := views.outcome_arguments arguments depth (by simpa [TypeRef.height] using enough)
      have joined := Rendering.outcome_joined_ok list View.angleBrackets
      change Rendering.outcome (if name = "" then pure Fragment.absent else
        Rendering.joined View.angleBrackets _ >>= fun arguments => pure (Fragment.present
          (scope.shortName name ++ arguments.textOrEmpty ++ Text.repeated "[]" dimensions))) = _
      rw [TypeRef.written]
      by_cases unnamed : name = ""
      · rw [if_pos unnamed, if_pos unnamed]
        rfl
      · rw [if_neg unnamed, if_neg unnamed]
        exact Rendering.outcome_bind_ok joined _
theorem WritesTypes.outcome_arguments (views : r.WritesTypes) :
    ∀ (gs : List Generic) (depth : Nat), TypeRef.heightArguments gs ≤ depth →
      (Rendering.sequence ((gs.map .generic).map
        (r.dispatch formatting depth scope))).outcome =
          .ok (TypeRef.writtenArguments scope.shortName gs)
  | [], depth, _ => rfl
  | g :: gs, depth, enough => by
    simp only [TypeRef.heightArguments, Nat.max_le] at enough
    exact Rendering.outcome_sequence_cons_ok (views.outcome_generic g depth enough.1)
      (views.outcome_arguments gs depth enough.2)
theorem WritesTypes.outcome_generic (views : r.WritesTypes) :
    ∀ (g : Generic) (depth : Nat), g.height ≤ depth →
      (r.dispatch formatting depth scope (.generic g)).outcome = .ok (g.written scope.shortName)
  | .mk lower bounds keyword, depth, enough => by
    cases depth with
    | zero => simp [Generic.height] at enough
    | succ depth =>
      rw [outcome_dispatch_succ (views.generic _)]
      have list := views.outcome_bounds bounds depth (by simpa [Generic.height] using enough)
      have joined := Rendering.outcome_joined_ok list ⟨" & ", "", ""⟩
      change (View.generic.render ⟨formatting, scope, r.dispatch formatting depth⟩ _).outcome = _
      refine (Rendering.outcome_bind_ok joined _).trans ?_
      cases lower <;> rfl
theorem WritesTypes.outcome_bounds (views : r.WritesTypes) :
    ∀ (ts : List TypeRef) (depth : Nat), Generic.heightBounds ts ≤ depth →
      (Rendering.sequence ((ts.map .type).map (r.dispatch formatting depth scope))).outcome =
        .ok (Generic.writtenBounds scope.shortName ts)
  | [], depth, _ => rfl
  | t :: ts, depth, enough => by
    simp only [Generic.heightBounds, Nat.max_le] at enough
    exact Rendering.outcome_sequence_cons_ok (views.outcome_type t depth enough.1)
      (views.outcome_bounds ts depth enough.2)
end

theorem WritesTypes.outcome_on_type (views : r.WritesTypes) (formatting : Formatting)
    (scope : ImportScope) (t : TypeRef) :
    ((r.generator formatting scope).on (.type t)).outcome = .ok (t.written scope.shortName) :=
  views.outcome_type t _ (Nat.le_add_right _ _)

theorem WritesTypes.outcome_on_generic (views : r.WritesTypes) (formatting : Formatting)
    (scope : ImportScope) (g : Generic) :
    ((r.generator formatting scope).on (.generic g)).outcome = .ok (g.written scope.shortName) :=
  views.outcome_generic g _ (Nat.le_add_right _ _)

end Registry

end SourceModel
