import BranchChat.Conversation.Record

/-!
# Listings

Conversations and artifacts are listed one to a line, in columns of a least width.

## Main definitions

- `column`: a text filled up to a width
- `CatalogEntry.line`, `Artifact.line`: one line of a list
-/

namespace BranchChat

/-- A text with spaces after it, up to a width. -/
def Display.column (width : Nat) (text : String) : String :=
  text ++ .ofList (List.replicate (width - text.length) ' ')

open Display (column)

/-- A conversation in the list: identifier, last change and title. -/
def CatalogEntry.line (c : CatalogEntry) : String :=
  let updated := (c.updatedAt.map Calendar.Timestamp.minuteText).getD ""
  column 38 c.id ++ " " ++ column 16 updated ++ " " ++ c.title.getD "(untitled)"

/-- An artifact in the list: identifier, version, kind and title. -/
def Artifact.line (a : Artifact) : String :=
  column 38 a.id ++ " v" ++ column 4 (toString a.version.toNat) ++ " " ++
    column 10 (a.kind.getD "-") ++ " " ++ a.title

end BranchChat
