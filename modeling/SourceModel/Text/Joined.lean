namespace SourceModel.Text

def joinWith (separator : String) : List String → String
  | [] => ""
  | [text] => text
  | text :: next :: rest => text ++ separator ++ joinWith separator (next :: rest)

@[simp] theorem joinWith_nil (separator : String) : joinWith separator [] = "" := rfl

@[simp] theorem joinWith_singleton (separator text : String) :
    joinWith separator [text] = text := rfl

theorem joinWith_cons_cons (separator text next : String) (rest : List String) :
    joinWith separator (text :: next :: rest) =
      text ++ separator ++ joinWith separator (next :: rest) := rfl

def repeated (text : String) : Nat → String
  | 0 => ""
  | count + 1 => text ++ repeated text count

def utf8Length : List Char → Nat
  | [] => 0
  | c :: rest => c.utf8Size + utf8Length rest

theorem utf8Length_append (before after : List Char) :
    utf8Length (before ++ after) = utf8Length before + utf8Length after := by
  induction before with
  | nil => simp [utf8Length]
  | cons c rest ih => simp [utf8Length, ih, Nat.add_assoc]

end SourceModel.Text
