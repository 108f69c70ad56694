import NodeCanvas.Toml.Bare
/-!
# Tables that stand for moments

A table whose first key is `momentKey` is not a table but a date, a time or both, written as text
under that key. What else such a table holds does not count. The rules for this text are not quite
those for moments without quotes: an hour may be 24, and a distance from universal time may be a
whole day.
-/

namespace NodeCanvas

namespace Toml

/-- The key of the text of a moment. -/
def momentKey : String := "$__toml_private_datetime"

/-- Whether a text is that of a moment. -/
def isWrittenMoment (text : List Char) : Bool :=
  match text with
  | _ :: _ :: ':' :: _ => (afterTime? 24 text).any List.isEmpty
  | _ =>
    match afterDate? text with
    | some [] => true
    | some (mark :: rest) =>
      (mark == 'T' || mark == 't' || mark == ' ') &&
        (afterTime? 24 rest).any (isOffset fun hours minutes => 60 * hours + minutes ≤ 1440)
    | none => false

mutual

/-- Whether every table in a value that should stand for a moment does. -/
def isSound : Toml → Bool
  | .list items => allSound items
  | .braces entries | .table _ entries => isSoundTable entries
  | .tables latestFirst => allSoundTables latestFirst
  | _ => true

def allSound : List Toml → Bool
  | [] => true
  | item :: items => isSound item && allSound items

/-- Whether a table stands for a moment or has sound values. -/
def isSoundTable : List (String × Toml) → Bool
  | [] => true
  | (key, value) :: entries =>
    if key = momentKey then
      match value with
      | .string text => isWrittenMoment text.toList
      | _ => false
    else isSound value && allSoundEntries entries

def allSoundEntries : List (String × Toml) → Bool
  | [] => true
  | (_, value) :: entries => isSound value && allSoundEntries entries

def allSoundTables : List (List (String × Toml)) → Bool
  | [] => true
  | entries :: others => isSoundTable entries && allSoundTables others

end

end Toml

end NodeCanvas
