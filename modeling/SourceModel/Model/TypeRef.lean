import SourceModel.Text.Split

namespace SourceModel

inductive BoundKeyword
  | extend
  | super
  deriving DecidableEq, Repr, Inhabited

def BoundKeyword.name : BoundKeyword → String
  | extend => "extends"
  | super => "super"

mutual
inductive TypeRef
  | mk (name : String) (arguments : List Generic) (dimensions : Nat)
/-- A type parameter or argument: a lower bound such as `T` or the wildcard, and upper bounds behind
a keyword. A plain type argument is a generic without lower bound and with that one upper bound. -/
inductive Generic
  | mk (lower : Option String) (bounds : List TypeRef) (keyword : BoundKeyword)
end

instance : Inhabited TypeRef := ⟨.mk "" [] 0⟩
instance : Inhabited Generic := ⟨.mk none [] .extend⟩

mutual
def TypeRef.decEq : (s t : TypeRef) → Decidable (s = t)
  | .mk name arguments dimensions, .mk name' arguments' dimensions' =>
    if hn : name = name' then
      if hd : dimensions = dimensions' then
        match TypeRef.decEqArguments arguments arguments' with
        | .isTrue h => .isTrue (by rw [hn, hd, h])
        | .isFalse h => .isFalse (by simp [h])
      else .isFalse (by simp [hd])
    else .isFalse (by simp [hn])
def TypeRef.decEqArguments : (gs hs : List Generic) → Decidable (gs = hs)
  | [], [] => .isTrue rfl
  | [], _ :: _ => .isFalse (by simp)
  | _ :: _, [] => .isFalse (by simp)
  | g :: gs, h :: hs =>
    match Generic.decEq g h with
    | .isTrue he =>
      match TypeRef.decEqArguments gs hs with
      | .isTrue ht => .isTrue (by rw [he, ht])
      | .isFalse ht => .isFalse (by simp [ht])
    | .isFalse he => .isFalse (by simp [he])
def Generic.decEq : (g h : Generic) → Decidable (g = h)
  | .mk lower bounds keyword, .mk lower' bounds' keyword' =>
    if hl : lower = lower' then
      if hk : keyword = keyword' then
        match Generic.decEqBounds bounds bounds' with
        | .isTrue h => .isTrue (by rw [hl, hk, h])
        | .isFalse h => .isFalse (by simp [h])
      else .isFalse (by simp [hk])
    else .isFalse (by simp [hl])
def Generic.decEqBounds : (ss ts : List TypeRef) → Decidable (ss = ts)
  | [], [] => .isTrue rfl
  | [], _ :: _ => .isFalse (by simp)
  | _ :: _, [] => .isFalse (by simp)
  | s :: ss, t :: ts =>
    match TypeRef.decEq s t with
    | .isTrue he =>
      match Generic.decEqBounds ss ts with
      | .isTrue ht => .isTrue (by rw [he, ht])
      | .isFalse ht => .isFalse (by simp [ht])
    | .isFalse he => .isFalse (by simp [he])
end

instance : DecidableEq TypeRef := TypeRef.decEq
instance : DecidableEq Generic := Generic.decEq

def simpleName (name : String) : String :=
  match Text.splitLast? '.' name.toList with
  | some (_, simple) => String.ofList simple
  | none => name

def packageName? (name : String) : Option String :=
  (Text.splitLast? '.' name.toList).map fun parts => String.ofList parts.1

namespace TypeRef

def name : TypeRef → String
  | mk name _ _ => name

def arguments : TypeRef → List Generic
  | mk _ arguments _ => arguments

def dimensions : TypeRef → Nat
  | mk _ _ dimensions => dimensions

def ofName (name : String) : TypeRef := mk name [] 0

def simpleName (type : TypeRef) : String := SourceModel.simpleName type.name

def package? (type : TypeRef) : Option String := packageName? type.name

end TypeRef

namespace Generic

def lower : Generic → Option String
  | mk lower _ _ => lower

def bounds : Generic → List TypeRef
  | mk _ bounds _ => bounds

def keyword : Generic → BoundKeyword
  | mk _ _ keyword => keyword

def ofName (name : String) : Generic := mk (some name) [] .extend

def ofType (type : TypeRef) : Generic := mk none [type] .extend

def wildcard (keyword : BoundKeyword) (bounds : List TypeRef) : Generic :=
  mk (some "?") bounds keyword

end Generic

mutual
def TypeRef.height : TypeRef → Nat
  | .mk _ arguments _ => TypeRef.heightArguments arguments + 1
def TypeRef.heightArguments : List Generic → Nat
  | [] => 0
  | g :: gs => max (Generic.height g) (TypeRef.heightArguments gs)
def Generic.height : Generic → Nat
  | .mk _ bounds _ => Generic.heightBounds bounds + 1
def Generic.heightBounds : List TypeRef → Nat
  | [] => 0
  | t :: ts => max (TypeRef.height t) (Generic.heightBounds ts)
end

end SourceModel
