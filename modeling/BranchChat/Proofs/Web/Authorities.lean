import BranchChat.Proofs.Web.Trails
import BranchChat.Web.Url.Reader

/-!
# Texts that go on after an address

Everything before the path is read from the front, and no part of it goes on over a slash. So a text
that goes on with a slash after an address has the same scheme, user, host and port number, and the
rest of it is left over for the path.

## Main definitions

- `IsTail`: what may go on after an address
- `Authority`, `authority?`: who an address on the web belongs to, and what follows

## Main statements

- `scheme?_append`, `takeUserinfo_append`, `hostText_append`, `portNumber?_append`: the parts of an
  address before the path
- `authority?_append`: all of them after the scheme
- `afterSlashes_of_isWeb`: addresses on the web by their authority
-/

namespace BranchChat.Web.Url

open BranchChat.Text (cutFirst)

variable {scheme : String} {tail : List Char}

/-- Nothing, or a slash and more. No query and no fragment begins in it, and it has no controls and
no spaces. -/
structure IsTail (tail : List Char) : Prop where
  atSlash : ∀ c ∈ tail.head?, c = '/'
  noMark : ∀ c ∈ tail, c ≠ '#' ∧ c ≠ '?'
  visible : ∀ c ∈ tail, 0x20 < c.toNat

theorem IsTail.eq_nil_or_cons (h : IsTail tail) : tail = [] ∨ ∃ rest, tail = '/' :: rest := by
  cases tail with
  | nil => exact .inl rfl
  | cons c rest =>
    obtain rfl := h.atSlash c rfl
    exact .inr ⟨rest, rfl⟩

theorem isTail_slashes (n : Nat) : IsTail (List.replicate n '/') := by
  have hslash : ∀ c ∈ List.replicate n '/', c = '/' := fun c hc => (List.mem_replicate.mp hc).2
  refine ⟨fun c hc => hslash c (List.mem_of_mem_head? hc), fun c hc => ?_, fun c hc => ?_⟩
  · rw [hslash c hc]
    decide
  · rw [hslash c hc]
    decide

/-! ### Characters up to a slash -/

theorem takeWhile_append_tail {p : Char → Bool} (hp : p '/' = false) (htail : IsTail tail)
    (cs : List Char) : (cs ++ tail).takeWhile p = cs.takeWhile p := by
  induction cs with
  | nil =>
    rcases htail.eq_nil_or_cons with rfl | ⟨rest, rfl⟩
    · rfl
    · exact List.takeWhile_cons_of_neg (by rw [hp]; decide)
  | cons c cs ih =>
    cases hc : p c with
    | true =>
      rw [List.cons_append, List.takeWhile_cons_of_pos hc, List.takeWhile_cons_of_pos hc, ih]
    | false =>
      have hstop : ¬p c = true := by rw [hc]; decide
      rw [List.cons_append, List.takeWhile_cons_of_neg hstop, List.takeWhile_cons_of_neg hstop]

theorem dropWhile_append_tail {p : Char → Bool} (hp : p '/' = false) (htail : IsTail tail)
    (cs : List Char) : (cs ++ tail).dropWhile p = cs.dropWhile p ++ tail := by
  have hwhole := List.takeWhile_append_dropWhile (p := p) (l := cs ++ tail)
  rw [takeWhile_append_tail hp htail] at hwhole
  rw [← List.append_cancel_left_eq (cs.takeWhile p), hwhole, ← List.append_assoc,
    List.takeWhile_append_dropWhile]

/-! ### The parts before the path -/

theorem scheme?_of_forall {cs : List Char} (h : ∀ c ∈ cs, (c == ':') = false) :
    scheme? cs = none := by
  unfold scheme?
  split
  · split
    · rw [Text.cutFirst_of_forall h]
    · rfl
  · rfl

theorem scheme?_of_cut {c : Char} {cs name rest : List Char}
    (h : cutFirst (· == ':') (c :: cs) = some (name, rest)) :
    scheme? (c :: cs) =
      if c.isAlpha = true then
        if (name.all fun c => c.isAlphanum || c == '+' || c == '-' || c == '.') = true then
          some (.ofList (name.map Char.toLower), rest)
        else none
      else none := by
  show (if c.isAlpha = true then _ else none) = _
  rw [h]

/-- Where a slash comes before the first colon there is no scheme. -/
theorem scheme?_of_slash {cs name rest : List Char}
    (h : cutFirst (· == ':') cs = some (name, rest)) (hslash : '/' ∈ name) : scheme? cs = none := by
  cases cs with
  | nil => rfl
  | cons c cs =>
    have hall : (name.all fun c => c.isAlphanum || c == '+' || c == '-' || c == '.') = false :=
      List.all_eq_false.mpr ⟨'/', hslash, by decide⟩
    rw [scheme?_of_cut h, hall, if_neg Bool.false_ne_true, ite_self]

/-- A scheme ends before any slash. -/
theorem scheme?_append (htail : IsTail tail) (cs : List Char) :
    scheme? (cs ++ tail) = (scheme? cs).map fun found => (found.1, found.2 ++ tail) := by
  rcases htail.eq_nil_or_cons with rfl | ⟨more, rfl⟩
  · simp
  cases cs with
  | nil => rfl
  | cons c cs =>
    rcases Text.exists_first (· == ':') (c :: cs) with hnone | ⟨name, s, rest, hcs, hname, hs⟩
    · rw [scheme?_of_forall hnone, Option.map_none]
      have hfront : ∀ d ∈ c :: cs ++ ['/'], (d == ':') = false := by
        intro d hd
        rcases List.mem_append.mp hd with hd | hd
        · exact hnone d hd
        · rw [List.mem_singleton.mp hd]
          decide
      have hwhole (rest : List Char) : c :: cs ++ '/' :: rest = c :: cs ++ ['/'] ++ rest := by simp
      rw [hwhole]
      rcases Text.exists_first (· == ':') more with hmore | ⟨name, s, rest, rfl, hname, hs⟩
      · exact scheme?_of_forall (List.forall_mem_append.mpr ⟨hfront, hmore⟩)
      · rw [← List.append_assoc]
        refine scheme?_of_slash (Text.cutFirst_append_cons
          (List.forall_mem_append.mpr ⟨hfront, hname⟩) hs rest) ?_
        simp
    · have hcut := Text.cutFirst_append_cons hname hs rest
      have hcut' := Text.cutFirst_append_cons hname hs (rest ++ '/' :: more)
      rw [← hcs] at hcut
      rw [← List.cons_append, ← List.append_assoc, ← hcs, List.cons_append] at hcut'
      rw [List.cons_append, scheme?_of_cut hcut, scheme?_of_cut hcut']
      split
      · split <;> rfl
      · rfl

/-- A text without marks is all front. -/
theorem divide_of_forall {cs : List Char} (h : ∀ c ∈ cs, c ≠ '#' ∧ c ≠ '?') :
    divide cs = ⟨cs, none, none⟩ := by
  have hfragment : cutFirst (· == '#') cs = none :=
    Text.cutFirst_of_forall fun c hc => beq_false_of_ne (h c hc).1
  have hquery : cutFirst (· == '?') cs = none :=
    Text.cutFirst_of_forall fun c hc => beq_false_of_ne (h c hc).2
  unfold divide
  rw [hfragment]
  dsimp only
  rw [hquery]

theorem forall_of_divide {cs : List Char} (hquery : (divide cs).query = none)
    (hfragment : (divide cs).fragment = none) : ∀ c ∈ cs, c ≠ '#' ∧ c ≠ '?' := by
  unfold divide at hquery hfragment
  cases hmark : cutFirst (· == '#') cs with
  | some found =>
    rw [hmark] at hfragment
    dsimp only at hfragment
    split at hfragment <;> cases hfragment
  | none =>
    rw [hmark] at hquery
    dsimp only at hquery
    cases hask : cutFirst (· == '?') cs with
    | some found =>
      rw [hask] at hquery
      cases hquery
    | none =>
      intro c hc
      exact ⟨ne_of_beq_false (Text.forall_of_cutFirst_eq_none hmark c hc),
        ne_of_beq_false (Text.forall_of_cutFirst_eq_none hask c hc)⟩

/-- User information ends before any slash. -/
theorem takeUserinfo_append (htail : IsTail tail) (cs : List Char) :
    takeUserinfo true (cs ++ tail) =
      ((takeUserinfo true cs).1, (takeUserinfo true cs).2 ++ tail) := by
  unfold takeUserinfo
  rw [takeWhile_append_tail rfl htail]
  dsimp only
  split
  · rfl
  · next found before hfound =>
    obtain ⟨s, hparts, -, -⟩ := Text.exists_of_cutFirst_eq_some hfound
    have hlength := congrArg List.length hparts
    have hle := (List.takeWhile_prefix (fun c => !isSlash true c) (l := cs)).length_le
    rw [List.length_reverse, List.length_append, List.length_cons] at hlength
    rw [List.drop_append_of_le_length (by rw [List.length_reverse]; omega)]

/-- A host ends at a slash or at a colon, or it goes on. -/
theorem hostText_cons (inside : Bool) (c : Char) :
    ((isSlash true c = true ∨ c = ':') ∧
        ∀ rest, hostText true inside (c :: rest) = ([], c :: rest)) ∨
      ∃ inside', ∀ rest, hostText true inside (c :: rest) =
        (c :: (hostText true inside' rest).1, (hostText true inside' rest).2) := by
  cases hstop : isSlash true c || (c == ':' && !inside) with
  | true =>
    refine .inl ⟨?_, fun rest => if_pos hstop⟩
    rcases Bool.or_eq_true_iff.mp hstop with hslash | hcolon
    · exact .inl hslash
    · exact .inr (beq_iff_eq.mp (Bool.and_eq_true_iff.mp hcolon).1)
  | false => exact .inr ⟨_, fun rest => if_neg (by rw [hstop]; decide)⟩

/-- A host ends before any slash. -/
theorem hostText_append (htail : IsTail tail) (inside : Bool) (cs : List Char) :
    hostText true inside (cs ++ tail) =
      ((hostText true inside cs).1, (hostText true inside cs).2 ++ tail) := by
  induction cs generalizing inside with
  | nil => rcases htail.eq_nil_or_cons with rfl | ⟨rest, rfl⟩ <;> rfl
  | cons c cs ih =>
    rw [List.cons_append]
    rcases hostText_cons inside c with ⟨-, hstop⟩ | ⟨inside', hgo⟩
    · rw [hstop, hstop, List.cons_append]
    · rw [hgo, hgo, ih]

/-- What follows a host begins with a slash or a colon. -/
theorem head?_hostText (inside : Bool) (cs : List Char) :
    ∀ c ∈ (hostText true inside cs).2.head?, isSlash true c = true ∨ c = ':' := by
  induction cs generalizing inside with
  | nil => exact fun c hc => nomatch hc
  | cons d cs ih =>
    rcases hostText_cons inside d with ⟨hd, hstop⟩ | ⟨inside', hgo⟩
    · rw [hstop]
      rintro c ⟨⟩
      exact hd
    · rw [hgo]
      exact ih inside'

theorem portNumber?_eq (scheme : String) (cs : List Char) :
    portNumber? scheme cs =
      let digits := cs.takeWhile Char.isDigit
      let rest := cs.dropWhile Char.isDigit
      let n := digits.foldl (fun n c => n * 10 + (c.toNat - 48)) 0
      if 65535 < n ∨ (!rest.head?.all (isSlash true)) = true then .error .badPortNumber
      else if digits.isEmpty = true ∨ impliedPortNumber scheme = some n then .ok (none, rest)
      else .ok (some n, rest) := by
  unfold portNumber?
  cases cs.dropWhile Char.isDigit <;> rfl

/-- A port number ends before any slash. -/
theorem portNumber?_append (htail : IsTail tail) (cs : List Char) :
    portNumber? scheme (cs ++ tail) =
      (portNumber? scheme cs).map fun found => (found.1, found.2 ++ tail) := by
  have hended : (cs.dropWhile Char.isDigit ++ tail).head?.all (isSlash true) =
      (cs.dropWhile Char.isDigit).head?.all (isSlash true) := by
    cases cs.dropWhile Char.isDigit with
    | nil => rcases htail.eq_nil_or_cons with rfl | ⟨rest, rfl⟩ <;> rfl
    | cons c rest => rfl
  rw [portNumber?_eq, portNumber?_eq, takeWhile_append_tail rfl htail,
    dropWhile_append_tail rfl htail]
  dsimp only
  rw [hended]
  split
  · rfl
  · split <;> rfl

/-- What follows a port number begins with a slash. -/
theorem head?_portNumber? {cs rest : List Char} {number : Option Nat}
    (h : portNumber? scheme cs = .ok (number, rest)) : ∀ c ∈ rest.head?, isSlash true c = true := by
  rw [portNumber?_eq] at h
  dsimp only at h
  split at h
  · cases h
  · next hgood =>
    have hended : (cs.dropWhile Char.isDigit).head?.all (isSlash true) = true := by
      by_contra hbad
      exact hgood (.inr (by rw [Bool.not_eq_true _ |>.mp hbad]; rfl))
    have hrest : cs.dropWhile Char.isDigit = rest := by
      split at h <;> exact (Prod.mk.inj (Except.ok.inj h)).2
    rw [← hrest]
    intro c hc
    rw [Option.mem_def] at hc
    rw [hc] at hended
    exact hended

/-! ### Authorities -/

/-- Who an address belongs to, and what follows. -/
structure Authority where
  userinfo : String
  host : String
  portNumber : Option Nat
  rest : List Char

/-- The address that an authority and the path after it make. -/
def Authority.url (scheme : String) (a : Authority) : Url :=
  { scheme, userinfo := a.userinfo, host := some a.host, portNumber := a.portNumber
    path := .segments (authorityPath scheme a.rest), query := none, fragment := none }

/-- The optional number after a host, and what follows. -/
def numbered? (scheme : String) (cs : List Char) : Except Error (Option Nat × List Char) :=
  match cs with
  | ':' :: rest => portNumber? scheme rest
  | rest => .ok (none, rest)

/-- The authority at the front of a text after a scheme of the web. -/
def authority? (scheme : String) (cs : List Char) : Except Error Authority :=
  let user := takeUserinfo true cs
  let written := hostText true false user.2
  if written.1.isEmpty then .error .emptyHost
  else
    match Host.read? written.1 with
    | .error e => .error e
    | .ok host =>
      (numbered? scheme written.2).map fun found => ⟨user.1, host, found.1, found.2⟩

theorem numbered?_of_ne {cs : List Char} (h : ∀ rest, cs = ':' :: rest → False) :
    numbered? scheme cs = .ok (none, cs) := by
  unfold numbered?
  split
  · next rest => exact (h rest rfl).elim
  · rfl

theorem numbered?_append (htail : IsTail tail) (cs : List Char) :
    numbered? scheme (cs ++ tail) =
      (numbered? scheme cs).map fun found => (found.1, found.2 ++ tail) := by
  cases cs with
  | nil => rcases htail.eq_nil_or_cons with rfl | ⟨rest, rfl⟩ <;> rfl
  | cons c cs =>
    by_cases hc : c = ':'
    · subst hc
      exact portNumber?_append htail cs
    · have hcolon (cs : List Char) : ∀ rest, c :: cs = ':' :: rest → False :=
        fun rest heq => hc (List.cons.inj heq).1
      rw [List.cons_append, numbered?_of_ne (hcolon cs), numbered?_of_ne (hcolon _)]
      rfl

/-- All of an authority ends before the path. -/
theorem authority?_append (htail : IsTail tail) (cs : List Char) :
    authority? scheme (cs ++ tail) =
      (authority? scheme cs).map fun a => { a with rest := a.rest ++ tail } := by
  unfold authority?
  rw [takeUserinfo_append htail]
  dsimp only
  rw [hostText_append htail]
  dsimp only
  rw [numbered?_append htail]
  split
  · rfl
  · split
    · rfl
    · cases numbered? scheme (hostText true false (takeUserinfo true cs).2).2 <;> rfl

theorem head?_numbered? {cs rest : List Char} {number : Option Nat}
    (h : numbered? scheme cs = .ok (number, rest))
    (hcs : ∀ c ∈ cs.head?, isSlash true c = true ∨ c = ':') :
    ∀ c ∈ rest.head?, isSlash true c = true := by
  unfold numbered? at h
  split at h
  · exact head?_portNumber? h
  · next hcolon =>
    obtain ⟨-, rfl⟩ := Prod.mk.inj (Except.ok.inj h)
    intro c hc
    refine (hcs c hc).resolve_right ?_
    rintro rfl
    obtain ⟨rest, rfl⟩ := List.head?_eq_some_iff.mp hc
    exact hcolon rest rfl

/-- What follows an authority begins with a slash. -/
theorem head?_authority? {cs : List Char} {a : Authority} (h : authority? scheme cs = .ok a) :
    ∀ c ∈ a.rest.head?, isSlash true c = true := by
  unfold authority? at h
  dsimp only at h
  split at h
  · cases h
  · split at h
    · cases h
    · cases hnumber : numbered? scheme (hostText true false (takeUserinfo true cs).2).2 with
      | error e =>
        rw [hnumber] at h
        cases h
      | ok found =>
        rw [hnumber] at h
        obtain rfl := Except.ok.inj h
        exact head?_numbered? hnumber (head?_hostText _ _)

/-- An address on the web has an authority and a path. -/
theorem afterSlashes_of_isWeb (hscheme : IsWeb scheme) (cs : List Char) :
    afterSlashes scheme cs = (authority? scheme (divide cs).front).map fun a =>
      withTail (a.url scheme) (divide cs) := by
  have hneeds (user : String) (d : Divided) (rest : List Char) :
      allowsNoHost true user d rest = false := rfl
  unfold afterSlashes authority?
  rw [hscheme.isSpecial]
  dsimp only
  rw [hneeds, Bool.not_false, Bool.and_true]
  split
  · rfl
  · cases Host.read? (hostText true false (takeUserinfo true (divide cs).front).2).1 with
    | error e => rfl
    | ok host =>
      generalize (hostText true false (takeUserinfo true (divide cs).front).2).2 = rest
      rw [if_pos rfl]
      dsimp only [Except.bind, Bind.bind]
      split
      · next rest =>
        show _ = Except.map _ (Except.map _ (portNumber? scheme rest))
        cases portNumber? scheme rest <;> rfl
      · next rest hcolon =>
        rw [numbered?_of_ne hcolon]
        rfl

/-- Without marks an address is its authority and its path. -/
theorem afterSlashes_of_forall (hscheme : IsWeb scheme) {cs : List Char}
    (h : ∀ c ∈ cs, c ≠ '#' ∧ c ≠ '?') :
    afterSlashes scheme cs = (authority? scheme cs).map (Authority.url scheme) := by
  rw [afterSlashes_of_isWeb hscheme, divide_of_forall h]
  rfl

/-- An address without query and fragment has no marks. -/
theorem forall_of_afterSlashes (hscheme : IsWeb scheme) {cs : List Char} {u : Url}
    (h : afterSlashes scheme cs = .ok u) (hquery : u.query = none) (hfragment : u.fragment = none) :
    ∀ c ∈ cs, c ≠ '#' ∧ c ≠ '?' := by
  rw [afterSlashes_of_isWeb hscheme] at h
  cases ha : authority? scheme (divide cs).front with
  | error e =>
    rw [ha] at h
    cases h
  | ok a =>
    rw [ha] at h
    obtain rfl := Except.ok.inj h
    exact forall_of_divide (Option.map_eq_none_iff.mp hquery) (Option.map_eq_none_iff.mp hfragment)

end BranchChat.Web.Url
