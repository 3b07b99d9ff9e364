import DocPages.Script.Cursor

/-!
# Groups in brackets

`afterGroup?` finds the text after the group in brackets that a script starts with, without
reading what is in the group.  It does not tell where a slash or a backtick stands in the group,
since what these start depends on what is before them.
-/

namespace DocPages

namespace Script

/-- What a place in a group is inside of. -/
inductive Surrounding where
  | code
  | lineComment
  | blockComment
  | quoted (quote : Char)

/-- Does the character open a group? -/
def opensGroup (c : Char) : Bool :=
  c == '(' || c == '[' || c == '\x7b'

/-- Does the character close a group? -/
def closesGroup (c : Char) : Bool :=
  c == ')' || c == ']' || c == '\x7d'

/-- The text after as many groups as are open, and nothing if one of them is not closed. -/
def afterGroups? : Surrounding → Nat → List Char → Option (List Char)
  | _, _, [] => some []
  | .code, _, '`' :: _ => none
  | .code, depth, '/' :: '/' :: r => afterGroups? .lineComment depth r
  | .code, depth, '/' :: '*' :: r => afterGroups? .blockComment depth r
  | .code, _, '/' :: _ => none
  | .code, depth, c :: r =>
    if c == '"' || c == '\'' then afterGroups? (.quoted c) depth r
    else if opensGroup c then afterGroups? .code (depth + 1) r
    else if closesGroup c then
      if depth ≤ 1 then some r else afterGroups? .code (depth - 1) r
    else afterGroups? .code depth r
  | .lineComment, depth, c :: r =>
    afterGroups? (if isLineEnd c || c == '\r' then .code else .lineComment) depth r
  | .blockComment, depth, '*' :: '/' :: r => afterGroups? .code depth r
  | .blockComment, depth, _ :: r => afterGroups? .blockComment depth r
  | .quoted q, depth, '\\' :: _ :: r => afterGroups? (.quoted q) depth r
  | .quoted q, depth, c :: r => afterGroups? (if c == q then .code else .quoted q) depth r

/-- The text after the group that a text starts with, if it starts with one. -/
def afterGroup? : List Char → Option (List Char)
  | c :: r => if opensGroup c then afterGroups? .code 1 r else none
  | [] => none

end Script

end DocPages
