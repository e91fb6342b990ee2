import BranchChat.Proofs.Files.Folders
import BranchChat.Proofs.Json.Printing
import BranchChat.Proofs.Text.Encoding
import BranchChat.Session.Credential

/-!
# The stored token

The file of a credential tells the token that is in memory: after any operation, the credential that
is loaded from the file has this token, unless it is empty. An operation that fails leaves both as
they were.

## Main definitions

- `Credential.Agrees`: the file of a credential tells its token

## Main statements

- `Credential.tokenOf?_stored`: a stored token is found again
- `Credential.agrees_load`, `Credential.agrees_of_keep`, `Credential.agrees_forget`
- `Credential.agrees_of_keep_error`: an operation that fails
-/

namespace BranchChat.Session.Credential

open BranchChat.Files (Path Store Fault)
open BranchChat.Json (quoted Raw)
open BranchChat.Text.Utf8 (Symbol bytes)

variable {c : Credential} {s s' : Store} {file : Path} {token : String} {now : Int}

/-! ### The stored text -/

/-- The tree of a stored token. -/
def storedTree (token : String) : Raw :=
  .object [(Raw.bodyOf "token".toList, .string (Raw.bodyOf token.toList))]

theorem stored_eq (token : String) :
    stored token = '\x7b' :: '\n' :: ' ' :: ' ' ::
      (quoted "token" ++ ':' :: ' ' :: (quoted token ++ ['\n', '\x7d'])) := by
  have hopen : "\x7b\n  \"token\": ".toList =
      '\x7b' :: '\n' :: ' ' :: ' ' :: (quoted "token" ++ [':', ' ']) := by decide +kernel
  have hclose : "\n\x7d".toList = ['\n', '\x7d'] := by decide +kernel
  have hstored : stored token =
      "\x7b\n  \"token\": ".toList ++ quoted token ++ "\n\x7d".toList := rfl
  rw [hstored, hopen, hclose]
  simp only [List.cons_append, List.append_assoc, List.nil_append]

/-- The stored object from its key on. -/
def storedMember (token : String) : List Symbol :=
  some '"' :: (Raw.bodyOf "token".toList ++ some '"' :: some ':' :: some ' ' :: some '"' ::
    (Raw.bodyOf token.toList ++ [some '"', some '\n', some '\x7d']))

theorem map_stored (token : String) :
    (stored token).map some =
      some '\x7b' :: some '\n' :: some ' ' :: some ' ' :: storedMember token := by
  rw [stored_eq, storedMember]
  simp only [List.map_cons, List.map_append, List.map_nil, Json.map_quoted, List.cons_append,
    List.append_assoc, List.nil_append]

theorem readMembers?_storedMember (fuel : Nat) (token : String) :
    Raw.readMembers? (fuel + 1 + 1) (storedMember token) =
      some ([(Raw.bodyOf "token".toList, .string (Raw.bodyOf token.toList))], []) := by
  have hvalue (ss : List Symbol) : Raw.skip (some ' ' :: some '"' :: ss) = some '"' :: ss := rfl
  have hclose : Raw.skip [some '\n', some '\x7d'] = [some '\x7d'] := rfl
  simp only [storedMember, Raw.readMembers?, Raw.readValue?, Raw.body?_bodyOf, Option.bind_eq_bind,
    Option.bind_some, Option.map_some, List.reverse_nil, List.nil_append,
    Raw.skip_cons (c := ':') rfl, hvalue, hclose]

theorem readValue?_stored (fuel : Nat) (token : String) :
    Raw.readValue? (fuel + 1 + 1 + 1) ((stored token).map some) = some (storedTree token, []) := by
  have hmember : Raw.skip (some '\n' :: some ' ' :: some ' ' :: storedMember token) =
      storedMember token := rfl
  rw [map_stored, Raw.readValue?, hmember]
  show Option.map _ (Raw.readMembers? (fuel + 1 + 1) (storedMember token)) = _
  rw [readMembers?_storedMember]
  rfl

/-- The grammar reads the stored text. -/
theorem read?_stored (token : String) :
    Raw.read? ((stored token).map some) = some (storedTree token) := by
  have hlength : ((stored token).map some).length + 1 =
      (storedMember token).length + 2 + 1 + 1 + 1 := by
    rw [map_stored]
    simp only [List.length_cons]
  have hskip : Raw.skip ((stored token).map some) = (stored token).map some := by
    rw [map_stored, Raw.skip_cons rfl]
  rw [Raw.read?, hskip, hlength, readValue?_stored]
  rfl

/-- A stored token is found again, unless it is empty. -/
theorem tokenOf?_stored (token : String) : tokenOf? (stored token) = nonempty? (some token) := by
  have hmember : ∀ f ∈ [("token", Raw.string (Raw.bodyOf token.toList))], f.1 ∈ ["token"] := by simp
  have hrecord : (storedTree token).record? ["token"] =
      some ⟨[("token", .string (Raw.bodyOf token.toList))], false⟩ :=
    Raw.record?_object hmember rfl
  have hread : Json.readString (.string (Raw.bodyOf token.toList)) = some token :=
    Raw.stringOf?_bodyOf token
  simp [tokenOf?, Json.decode?, read?_stored, hrecord, Json.Record.optional, Json.Record.raw?,
    Json.readOption, hread]

/-! ### The token of a file -/

theorem storedToken?_eq (s : Store) (file : Path) :
    storedToken? s file = (s.content? file).bind fun content =>
      (Text.Utf8.text? content).bind tokenOf? := by
  unfold storedToken?
  split
  case h_1 text hread =>
    obtain ⟨content, hcontent, htext⟩ := Files.Store.readText_eq_ok_iff.mp hread
    rw [hcontent, Option.bind_some, htext, Option.bind_some]
  case h_2 fault hread =>
    cases hcontent : s.content? file with
    | none => rfl
    | some content =>
      cases htext : Text.Utf8.text? content with
      | none => simp [htext]
      | some text =>
        have hok := Files.Store.readText_eq_ok_iff.mpr ⟨content, hcontent, htext⟩
        rw [hread] at hok
        exact absurd hok (by simp)

theorem storedToken?_congr (h : s'.content? file = s.content? file) :
    storedToken? s' file = storedToken? s file := by
  rw [storedToken?_eq, storedToken?_eq, h]

theorem storedToken?_of_stored (h : s.content? file = some (bytes (stored token))) :
    storedToken? s file = nonempty? (some token) := by
  rw [storedToken?_eq, h, Option.bind_some, Text.Utf8.text?_bytes, Option.bind_some,
    tokenOf?_stored]

theorem nonempty?_nonempty? (t : Option String) : nonempty? (nonempty? t) = nonempty? t := by
  rw [nonempty?, nonempty?, Option.filter_filter]
  simp

/-- A file never tells an empty token. -/
theorem nonempty?_storedToken? (s : Store) (file : Path) :
    nonempty? (storedToken? s file) = storedToken? s file := by
  unfold storedToken?
  split
  case h_1 => exact nonempty?_nonempty? _
  case h_2 => rfl

theorem load_token (s : Store) (file : Path) :
    (load s file none).token = storedToken? s file := rfl

/-! ### Operations -/

/-- The file of a credential tells the token in memory, unless that is empty. -/
structure Agrees (c : Credential) (s : Store) (file : Path) : Prop where
  file_eq : c.file = some file
  token_eq : (load s file none).token = nonempty? c.token

theorem agrees_load (s : Store) (file : Path) : (load s file none).Agrees s file where
  file_eq := rfl
  token_eq := by rw [load_token, nonempty?_storedToken?]

/-- A new token is stored, or else neither the token nor the content of the file has changed. -/
theorem keep_cases (h : c.file = some file) (s : Store) (token : String) (now : Int) :
    (∃ s', c.keep s token now = (s', .ok { c with token := some token }) ∧
      s'.content? file = some (bytes (stored token))) ∨
    ∃ s' fault, c.keep s token now = (s', .error fault) ∧ s'.content? file = s.content? file := by
  have hgrows := s.grows_createFoldersAbove file
  -- where no plain file is found after the folders were created, none was there before
  have hnone (hafter : (s.createFoldersAbove file).1.content? file = none) :
      (s.createFoldersAbove file).1.content? file = s.content? file := by
    cases hbefore : s.content? file with
    | none => exact hafter
    | some content => rw [hgrows.content?_eq_some hbefore] at hafter; exact absurd hafter (by simp)
  unfold keep
  rw [h]
  dsimp only
  rcases hfolders : s.createFoldersAbove file with ⟨s', fault | ⟨⟨⟩⟩⟩
  · refine .inr ⟨s', fault, rfl, ?_⟩
    have hfailed : (s.createFoldersAbove file).2 = .error fault := by rw [hfolders]
    have hcontent := hnone (Files.Store.content?_of_createFoldersAbove_error hfailed)
    rwa [hfolders] at hcontent
  · dsimp only
    rw [hfolders] at hnone
    cases hwrite : s'.write file (bytes (stored token)) now with
    | ok s'' => exact .inl ⟨s'', rfl, Files.Store.content?_of_write hwrite⟩
    | error fault =>
      refine .inr ⟨s', fault, rfl, hnone ?_⟩
      rcases s'.write_cases file (bytes (stored token)) now with ⟨_, _, _, _, hok⟩ | ⟨hcontent, -⟩
      · rw [hok] at hwrite
        exact absurd hwrite (by simp)
      · exact hcontent

theorem agrees_of_keep {c' : Credential} (h : c.Agrees s file)
    (hkeep : c.keep s token now = (s', .ok c')) : c'.Agrees s' file ∧ c'.token = some token := by
  rcases keep_cases h.file_eq s token now with ⟨s'', hok, hcontent⟩ | ⟨s'', fault, herror, -⟩
  · rw [hok] at hkeep
    cases hkeep
    exact ⟨⟨h.file_eq, by rw [load_token, storedToken?_of_stored hcontent]⟩, rfl⟩
  · rw [herror] at hkeep
    exact absurd (congrArg Prod.snd hkeep) (by simp)

/-- A token that cannot be stored changes nothing: not the token in memory, nor the file. -/
theorem agrees_of_keep_error {fault : Fault} (h : c.Agrees s file)
    (hkeep : c.keep s token now = (s', .error fault)) :
    c.Agrees s' file ∧ s'.content? file = s.content? file := by
  rcases keep_cases h.file_eq s token now with ⟨s'', hok, -⟩ | ⟨s'', fault', herror, hcontent⟩
  · rw [hok] at hkeep
    exact absurd (congrArg Prod.snd hkeep) (by simp)
  · rw [herror] at hkeep
    cases hkeep
    refine ⟨⟨h.file_eq, ?_⟩, hcontent⟩
    rw [load_token, storedToken?_congr hcontent]
    exact h.token_eq

/-- A file that a token was forgotten in is no plain file any more. -/
theorem content?_of_forget (h : c.file = some file) (s : Store) :
    (c.forget s).1.content? file = none := by
  unfold forget
  rw [h, Option.map_some]
  rcases s.remove_cases file with ⟨place, content, changed, -, -, hok⟩ | ⟨hcontent, fault, herror⟩
  · rw [hok]
    dsimp only
    rw [Files.Store.content?, Files.Store.at?_of_remove hok]
  · rw [herror]
    exact hcontent

/-- A plain file that a token was forgotten in is gone. -/
theorem contains_forget {content : List UInt8} (h : c.file = some file)
    (hcontent : s.content? file = some content) : (c.forget s).1.contains file = false := by
  unfold forget
  rw [h, Option.map_some]
  rcases s.remove_cases file with ⟨place, there, changed, -, -, hok⟩ | ⟨hnone, -⟩
  · rw [hok]
    dsimp only
    rw [Files.Store.contains, Files.Store.at?_of_remove hok]
    rfl
  · rw [hcontent] at hnone
    cases hnone

theorem agrees_forget (h : c.file = some file) (s : Store) :
    (c.forget s).2.Agrees (c.forget s).1 file where
  file_eq := h
  token_eq := by
    rw [load_token, storedToken?_eq, content?_of_forget h]
    rfl

end BranchChat.Session.Credential
