import DirectoryAuth.Proofs.Console.Dialogue
import DirectoryAuth.Proofs.Console.Lines

/-! What can be answered in a dialogue. The answers come in rounds, one for each user: the username,
the password and whether there is another user, each after any number of answers that are refused.
A dialogue comes to its end on exactly the inputs that begin with a sequence of rounds of which only
the last one says that there is no other user. -/
namespace DirectoryAuth.Dialogue

/-- The answers that enter one user. -/
structure Round where
  refused : List String
  username : String
  blanks : List String
  password : String
  others : List String
  last : String

/-- The answers of a round in the order in which they are given. -/
def Round.lines (r : Round) : List String :=
  r.refused ++ r.username :: (r.blanks ++ r.password :: (r.others ++ [r.last]))

/-- An answer that is not taken for a username: an empty one, one with a colon or a blank in it, or
one that has been entered before. -/
def RefusedName (entered : List String) (line : String) : Prop :=
  line = "" ∨ (∃ c ∈ line.toList, c = ':' ∨ Text.isBlankChar c = true) ∨ line ∈ entered

instance (entered : List String) (line : String) : Decidable (RefusedName entered line) :=
  -- over the characters of the line; left to itself the search can go over all characters there are
  haveI : Decidable (∃ c ∈ line.toList, c = ':' ∨ Text.isBlankChar c = true) :=
    List.decidableBEx _ _
  inferInstanceAs (Decidable (_ ∨ _ ∨ _))

/-- A round in which the answers do what they are there for. -/
structure Round.Fits (entered : List String) (r : Round) : Prop where
  refused : ∀ line ∈ r.refused, RefusedName entered line
  username : ¬RefusedName entered r.username
  blanks : ∀ line ∈ r.blanks, Text.isBlank line = true
  password : Text.isBlank r.password = false
  others : ∀ line ∈ r.others, Text.trim line ∉ ["y", "Y", "n", "N"]

instance (entered : List String) (r : Round) : Decidable (r.Fits entered) :=
  decidable_of_iff ((∀ line ∈ r.refused, RefusedName entered line) ∧
    ¬RefusedName entered r.username ∧ (∀ line ∈ r.blanks, Text.isBlank line = true) ∧
    Text.isBlank r.password = false ∧ ∀ line ∈ r.others, Text.trim line ∉ ["y", "Y", "n", "N"])
    ⟨fun ⟨h, h', h'', hp, ho⟩ => ⟨h, h', h'', hp, ho⟩,
      fun ⟨h, h', h'', hp, ho⟩ => ⟨h, h', h'', hp, ho⟩⟩

/-- Rounds that follow each other, with the usernames that were entered before them. -/
inductive Rounds : List String → List Round → Prop
  | last {entered : List String} {r : Round} (fits : r.Fits entered)
      (no : Text.trim r.last ∈ ["n", "N"]) : Rounds entered [r]
  | more {entered : List String} {r : Round} {rest : List Round} (fits : r.Fits entered)
      (yes : Text.trim r.last ∈ ["y", "Y"]) (next : Rounds (entered ++ [r.username]) rest) :
      Rounds entered (r :: rest)

theorem Round.Fits.new {entered : List String} {r : Round} (h : r.Fits entered) :
    r.username ∉ entered := fun hmem => h.username (.inr (.inr hmem))

theorem Rounds.nodup {entered : List String} {rounds : List Round} (h : Rounds entered rounds)
    (hentered : entered.Nodup) : (entered ++ rounds.map (·.username)).Nodup := by
  induction h with
  | last fits no =>
    rw [List.map_singleton, ← List.concat_eq_append]
    exact hentered.concat fits.new
  | more fits yes next ih =>
    rw [List.map_cons, List.append_cons]
    apply ih
    rw [← List.concat_eq_append]
    exact hentered.concat fits.new

theorem Rounds.password {entered : List String} {rounds : List Round} (h : Rounds entered rounds) :
    ∀ r ∈ rounds, Text.isBlank r.password = false := by
  induction h with
  | last fits no =>
    intro r hr
    obtain rfl := List.mem_singleton.mp hr
    exact fits.password
  | more fits yes next ih => exact List.forall_mem_cons.mpr ⟨fits.password, ih⟩

/-! ### One answer -/

section
variable {d : Dialogue} {salt : Bytes} {line : String}

theorem answer_of_not_accepts (h : ¬d.Accepts line) : (d.answer salt line).2 = .again d := by
  have hanswered := answered d salt line
  generalize (d.answer salt line).2 = next at hanswered ⊢
  generalize d.completed? line = user at hanswered
  cases hanswered with
  | refused refuses => rfl
  | username stage ok new => exact absurd (by simp [Accepts, stage, ok, new]) h
  | password stage present => exact absurd (by simp [Accepts, stage, present]) h
  | more stage yes => exact absurd (by simp_all [Accepts]) h
  | enough stage no => exact absurd (by simp_all [Accepts]) h

variable {entered : List Credential} {username : String}

theorem not_accepts_username_iff : ¬Accepts ⟨.username, entered⟩ line ↔
    RefusedName (entered.map (·.username)) line := by
  rw [Accepts, usernameProblem?_eq_none_iff, RefusedName]
  by_cases hempty : line = "" <;> grind

theorem not_accepts_password_iff : ¬Accepts ⟨.password username, entered⟩ line ↔
    Text.isBlank line = true := by
  rw [Accepts, Bool.not_eq_false]

theorem answer_username (h : Accepts ⟨.username, entered⟩ line) :
    (answer ⟨.username, entered⟩ salt line).2 = .again ⟨.password line, entered⟩ := by
  obtain ⟨hok, hnew⟩ := h
  have hany : entered.any (·.username == line) = false := by simpa using hnew
  simp [answer, hok, hany]

theorem answer_password (h : Accepts ⟨.password username, entered⟩ line) :
    (answer ⟨.password username, entered⟩ salt line).2 =
      .again ⟨.another, entered ++ [.ofPassword username line salt]⟩ := by
  have hpresent : Text.isBlank line = false := h
  simp [answer, hpresent]

theorem answer_yes (h : Text.trim line ∈ ["y", "Y"]) :
    (answer ⟨.another, entered⟩ salt line).2 = .again ⟨.username, entered⟩ := by
  have hyes : Text.trim line = "y" ∨ Text.trim line = "Y" := by simpa using h
  simp [answer, hyes]

theorem answer_no (h : Text.trim line ∈ ["n", "N"]) :
    (answer ⟨.another, entered⟩ salt line).2 = .finished entered := by
  have hno : Text.trim line = "n" ∨ Text.trim line = "N" := by simpa using h
  have hyes : ¬(Text.trim line = "y" ∨ Text.trim line = "Y") := by
    rcases hno with hno | hno <;> simp [hno]
  simp [answer, hyes, hno]

end

/-! ### A whole dialogue -/

variable (salts : Nat → Bytes)

/-- How a dialogue over lines of text ends, and the lines that it leaves. -/
def outcome (d : Dialogue) : List String → Except PromptError (List Credential) × List String
  | [] => (.error .endOfInput, [])
  | line :: rest =>
    match (d.answer (salts d.entered.length) line).2 with
    | .again d' => outcome d' rest
    | .finished credentials => (.ok credentials, rest)

theorem outcome_of_again {d d' : Dialogue} {line : String}
    (h : (d.answer (salts d.entered.length) line).2 = .again d') (rest : List String) :
    outcome salts d (line :: rest) = outcome salts d' rest := by
  rw [outcome, h]

theorem outcome_of_finished {d : Dialogue} {line : String} {credentials : List Credential}
    (h : (d.answer (salts d.entered.length) line).2 = .finished credentials) (rest : List String) :
    outcome salts d (line :: rest) = (.ok credentials, rest) := by
  rw [outcome, h]

theorem outcome_refused_append {d : Dialogue} {refused : List String}
    (h : ∀ line ∈ refused, ¬d.Accepts line) (rest : List String) :
    outcome salts d (refused ++ rest) = outcome salts d rest := by
  induction refused with
  | nil => rfl
  | cons line more ih =>
    obtain ⟨hline, hmore⟩ := List.forall_mem_cons.mp h
    rw [List.cons_append, outcome_of_again salts (answer_of_not_accepts hline), ih hmore]

variable {salts} {credentials : List Credential} {texts rest : List String}

/-- A dialogue that comes to its end gets past the answers that it refuses. -/
theorem outcome_eq_ok_iff_accepts {d : Dialogue} :
    outcome salts d texts = (.ok credentials, rest) ↔
      ∃ refused line more, texts = refused ++ line :: more ∧
        (∀ other ∈ refused, ¬d.Accepts other) ∧ d.Accepts line ∧
        outcome salts d (line :: more) = (.ok credentials, rest) := by
  constructor
  · intro h
    induction texts with
    | nil => cases h
    | cons line more ih =>
      by_cases haccepts : d.Accepts line
      · exact ⟨[], line, more, rfl, by simp, haccepts, h⟩
      · rw [outcome_of_again salts (answer_of_not_accepts haccepts)] at h
        obtain ⟨refused, line', more', rfl, hrefused, hline, hend⟩ := ih h
        exact ⟨line :: refused, line', more', rfl,
          List.forall_mem_cons.mpr ⟨haccepts, hrefused⟩, hline, hend⟩
  · rintro ⟨refused, line, more, rfl, hrefused, -, hend⟩
    rw [outcome_refused_append salts hrefused, hend]

/-- The credential that a round enters as the `n`-th one. -/
def Round.credential (salts : Nat → Bytes) (n : Nat) (r : Round) : Credential :=
  .ofPassword r.username r.password (salts n)

/-- A dialogue that asks for a username comes to its end over one more round. -/
theorem outcome_username_eq_ok_iff {entered : List Credential} :
    outcome salts ⟨.username, entered⟩ texts = (.ok credentials, rest) ↔
      ∃ (r : Round) (more : List String), r.Fits (entered.map (·.username)) ∧
        texts = r.lines ++ more ∧
        let entered' := entered ++ [r.credential salts entered.length]
        (Text.trim r.last ∈ ["y", "Y"] ∧
          outcome salts ⟨.username, entered'⟩ more = (.ok credentials, rest) ∨
        Text.trim r.last ∈ ["n", "N"] ∧ credentials = entered' ∧ rest = more) := by
  constructor
  · intro h
    obtain ⟨refused, username, more, rfl, hrefused, hname, h⟩ := outcome_eq_ok_iff_accepts.mp h
    rw [outcome_of_again salts (answer_username hname)] at h
    obtain ⟨blanks, password, more, rfl, hblanks, hpassword, h⟩ := outcome_eq_ok_iff_accepts.mp h
    rw [outcome_of_again salts (answer_password hpassword)] at h
    obtain ⟨others, last, more, rfl, hothers, hlast, h⟩ := outcome_eq_ok_iff_accepts.mp h
    refine ⟨⟨refused, username, blanks, password, others, last⟩, more, ?_, ?_, ?_⟩
    · exact
        { refused := fun line hline => not_accepts_username_iff.mp (hrefused line hline)
          username := fun h => not_accepts_username_iff.mpr h hname
          blanks := fun line hline => not_accepts_password_iff.mp (hblanks line hline)
          password := hpassword
          others := hothers }
    · simp [Round.lines]
    · by_cases hyes : Text.trim last ∈ ["y", "Y"]
      · rw [outcome_of_again salts (answer_yes hyes)] at h
        exact .inl ⟨hyes, h⟩
      · have hword : Text.trim last ∈ ["y", "Y"] ++ ["n", "N"] := hlast
        have hno := (List.mem_append.mp hword).resolve_left hyes
        rw [outcome_of_finished salts (answer_no hno)] at h
        obtain ⟨hcredentials, rfl⟩ := Prod.mk.inj h
        exact .inr ⟨hno, (Except.ok.inj hcredentials).symm, rfl⟩
  · rintro ⟨r, more, fits, rfl, h⟩
    have hname : Accepts ⟨.username, entered⟩ r.username :=
      not_not.mp (mt not_accepts_username_iff.mp fits.username)
    have hpassword : Accepts ⟨.password r.username, entered⟩ r.password := fits.password
    simp only [Round.lines, List.append_assoc, List.cons_append]
    rw [outcome_refused_append salts fun line hline =>
        not_accepts_username_iff.mpr (fits.refused line hline),
      outcome_of_again salts (answer_username hname),
      outcome_refused_append salts fun line hline =>
        not_accepts_password_iff.mpr (fits.blanks line hline),
      outcome_of_again salts (answer_password hpassword),
      outcome_refused_append salts fits.others, List.nil_append]
    rcases h with ⟨hyes, h⟩ | ⟨hno, rfl, rfl⟩
    · rw [outcome_of_again salts (answer_yes hyes)]
      exact h
    · rw [outcome_of_finished salts (answer_no hno)]
      rfl

/-- The credentials that rounds enter after `before` others. -/
def enteredIn (salts : Nat → Bytes) (before : Nat) (rounds : List Round) : List Credential :=
  rounds.mapIdx fun n r => r.credential salts (before + n)

theorem enteredIn_cons (before : Nat) (r : Round) (rounds : List Round) :
    enteredIn salts before (r :: rounds) =
      r.credential salts before :: enteredIn salts (before + 1) rounds := by
  simp [enteredIn, List.mapIdx_cons, Nat.add_assoc, Nat.add_comm 1]

/-- Rounds are held to their end, and no answer after them is read. -/
theorem Rounds.outcome_eq {names : List String} {rounds : List Round} (h : Rounds names rounds)
    (salts : Nat → Bytes) (rest : List String) {entered : List Credential}
    (hnames : entered.map (·.username) = names) :
    outcome salts ⟨.username, entered⟩ (rounds.flatMap Round.lines ++ rest) =
      (.ok (entered ++ enteredIn salts entered.length rounds), rest) := by
  induction h generalizing entered with
  | @last names r fits no =>
    exact outcome_username_eq_ok_iff.mpr
      ⟨r, rest, hnames ▸ fits, by simp, .inr ⟨no, rfl, rfl⟩⟩
  | @more names r rounds fits yes next ih =>
    have hnames' : (entered ++ [r.credential salts entered.length]).map (·.username) =
        names ++ [r.username] := by
      rw [List.map_append, hnames]
      rfl
    refine outcome_username_eq_ok_iff.mpr
      ⟨r, rounds.flatMap Round.lines ++ rest, hnames ▸ fits, by simp, .inl ⟨yes, ?_⟩⟩
    rw [ih hnames', enteredIn_cons, List.length_append, List.append_assoc]
    rfl

/-- There is no other way to the end of a dialogue. -/
theorem exists_rounds_of_outcome {entered : List Credential}
    (h : outcome salts ⟨.username, entered⟩ texts = (.ok credentials, rest)) :
    ∃ rounds, Rounds (entered.map (·.username)) rounds ∧
      texts = rounds.flatMap Round.lines ++ rest := by
  induction hlength : texts.length using Nat.strongRecOn generalizing texts entered with
  | _ length ih =>
    obtain ⟨r, more, fits, rfl, ⟨hyes, hmore⟩ | ⟨hno, -, rfl⟩⟩ :=
      outcome_username_eq_ok_iff.mp h
    · have hshorter : more.length < length := by
        rw [← hlength, List.length_append, Round.lines]
        simp only [List.length_append, List.length_cons]
        omega
      obtain ⟨rounds, hrounds, rfl⟩ := ih _ hshorter hmore rfl
      refine ⟨r :: rounds, .more fits hyes ?_, by simp⟩
      rw [List.map_append] at hrounds
      exact hrounds
    · exact ⟨[r], .last fits hno, by simp⟩

/-- A dialogue that does not come to its end reads everything. -/
theorem outcome_eq_ok_or (salts : Nat → Bytes) (d : Dialogue) (texts : List String) :
    (∃ credentials rest, outcome salts d texts = (.ok credentials, rest)) ∨
      outcome salts d texts = (.error .endOfInput, []) := by
  induction texts generalizing d with
  | nil => exact .inr rfl
  | cons line more ih =>
    rw [outcome]
    split
    · next d' _ => exact ih d'
    · next credentials _ => exact .inl ⟨credentials, more, rfl⟩

/-! ### The lines of an input -/

/-- Over lines that are text, a dialogue only depends on their texts. -/
theorem hold_eq_outcome (salts : Nat → Bytes) {lines : List Bytes}
    (h : lines.map Console.lineText = texts.map .ok) (d : Dialogue) :
    (hold salts d lines).result = (outcome salts d texts).1 ∧
      (hold salts d lines).rest.map Console.lineText = (outcome salts d texts).2.map .ok := by
  induction lines generalizing d texts with
  | nil =>
    obtain rfl := List.map_eq_nil_iff.mp h.symm
    exact ⟨rfl, rfl⟩
  | cons line lines ih =>
    obtain ⟨text, texts, rfl, htext, htexts⟩ := List.map_eq_cons_iff.mp h.symm
    rw [hold, ← htext, outcome]
    simp only
    split
    · next printed d' hnext =>
      rw [hnext]
      exact ih htexts.symm d'
    · next printed credentials hnext =>
      rw [hnext]
      exact ⟨rfl, htexts.symm⟩

/-- What a dialogue leaves is the end of its input. -/
theorem exists_append_rest_hold (salts : Nat → Bytes) (d : Dialogue) (lines : List Bytes) :
    ∃ read, lines = read ++ (hold salts d lines).rest := by
  induction lines generalizing d with
  | nil => exact ⟨[], rfl⟩
  | cons line lines ih =>
    rw [hold]
    split
    · exact ⟨[line], rfl⟩
    · split
      · next d' _ =>
        obtain ⟨read, hread⟩ := ih d'
        exact ⟨line :: read, congrArg (line :: ·) hread⟩
      · exact ⟨[line], rfl⟩

/-- What a dialogue over the lines of an input comes to that is held in these rounds: one credential
for each of them, in order, and what follows is left. -/
structure HeldIn (salts : Nat → Bytes) (lines : List Bytes) (rounds : List Round)
    (record : Record) : Prop where
  result_eq : record.result = .ok (enteredIn salts 0 rounds)
  distinct : (rounds.map (·.username)).Nodup
  entered : List.Forall₂ (fun r c => c.username = r.username ∧ c.digest ≠ none ∧
    c.digest = Password.digest? c.salt r.password) rounds (enteredIn salts 0 rounds)
  rest_eq : record.rest = lines.drop (rounds.flatMap Round.lines).length

/-- A credential stands for the user of its round and keeps a digest of the password. -/
theorem forall₂_enteredIn {rounds : List Round}
    (h : ∀ r ∈ rounds, Text.isBlank r.password = false) (before : Nat) :
    List.Forall₂ (fun r c => c.username = r.username ∧ c.digest ≠ none ∧
      c.digest = Password.digest? c.salt r.password) rounds (enteredIn salts before rounds) := by
  induction rounds generalizing before with
  | nil => exact .nil
  | cons r rounds ih =>
    obtain ⟨hr, hrounds⟩ := List.forall_mem_cons.mp h
    rw [enteredIn_cons]
    refine .cons ⟨rfl, ?_, rfl⟩ (ih hrounds (before + 1))
    rw [Round.credential, Credential.ofPassword, Ne, Password.digest?_eq_none_iff, hr]
    decide

theorem Rounds.heldIn {rounds : List Round} (h : Rounds [] rounds) (salts : Nat → Bytes)
    {lines : List Bytes}
    (hlines : lines.map Console.lineText = (rounds.flatMap Round.lines ++ rest).map .ok) :
    HeldIn salts lines rounds (hold salts {} lines) := by
  have houtcome : outcome salts {} (rounds.flatMap Round.lines ++ rest) =
    (.ok (enteredIn salts 0 rounds), rest) := h.outcome_eq salts rest rfl
  obtain ⟨hresult, hrest⟩ := hold_eq_outcome salts hlines {}
  rw [houtcome] at hresult hrest
  refine ⟨hresult, h.nodup List.nodup_nil, forall₂_enteredIn h.password 0, ?_⟩
  obtain ⟨read, hread⟩ := exists_append_rest_hold salts {} lines
  have hlength : read.length = (rounds.flatMap Round.lines).length := by
    have hall := congrArg List.length hlines
    have hleft := congrArg List.length hrest
    have hsum := congrArg List.length hread
    simp only [List.length_map, List.length_append] at hall hleft hsum
    omega
  calc (hold salts {} lines).rest
      = (read ++ (hold salts {} lines).rest).drop read.length := List.drop_left.symm
    _ = lines.drop (rounds.flatMap Round.lines).length := by rw [← hread, hlength]

/-- A dialogue comes to its end on exactly the inputs that begin with rounds. Then it has made one
credential for each of them, with different usernames and the digest of the password entered, and
has read nothing after the last round. On every other input it reads all lines and fails for want
of more. -/
theorem hold_succeeds_iff_rounds (salts : Nat → Bytes) (input : String) :
    let lines := Console.rawLines (utf8 input)
    let record := hold salts {} lines
    ((∃ credentials, record.result = .ok credentials) ↔
      ∃ rounds rest, Rounds [] rounds ∧
        Console.textLines input = rounds.flatMap Round.lines ++ rest) ∧
    (∀ rounds rest, Rounds [] rounds →
      Console.textLines input = rounds.flatMap Round.lines ++ rest →
      HeldIn salts lines rounds record) ∧
    ((∃ rounds rest, Rounds [] rounds ∧
        Console.textLines input = rounds.flatMap Round.lines ++ rest) ∨
      record.result = .error .endOfInput ∧ record.rest = []) := by
  intro lines record
  have htexts := Console.map_lineText_rawLines input
  obtain ⟨hresult, hrest⟩ := hold_eq_outcome salts htexts {}
  have hheld : ∀ rounds rest, Rounds [] rounds →
      Console.textLines input = rounds.flatMap Round.lines ++ rest →
      HeldIn salts lines rounds record := by
    intro rounds rest hrounds hinput
    rw [hinput] at htexts
    exact hrounds.heldIn salts htexts
  refine ⟨⟨?_, ?_⟩, hheld, ?_⟩
  · rintro ⟨credentials, hok⟩
    have houtcome : outcome salts {} (Console.textLines input) =
      (.ok credentials, (outcome salts {} (Console.textLines input)).2) :=
      Prod.ext (hresult.symm.trans hok) rfl
    obtain ⟨rounds, hrounds, hinput⟩ := exists_rounds_of_outcome houtcome
    exact ⟨rounds, _, hrounds, hinput⟩
  · rintro ⟨rounds, rest, hrounds, hinput⟩
    exact ⟨_, (hheld rounds rest hrounds hinput).result_eq⟩
  · rcases outcome_eq_ok_or salts {} (Console.textLines input) with ⟨credentials, rest, hok⟩ | hend
    · obtain ⟨rounds, hrounds, hinput⟩ := exists_rounds_of_outcome hok
      exact .inl ⟨rounds, rest, hrounds, hinput⟩
    · rw [hend] at hresult hrest
      exact .inr ⟨hresult, List.map_eq_nil_iff.mp hrest⟩

/-- Two rounds with refused answers at every place, and lines that end in different ways. -/
theorem hold_succeeds_iff_rounds_twice :
    let input := "a b\nalice\r\n \ns3cret\nmaybe\ny\nalice\nbob\npw\n N \r\nleft"
    let rounds : List Round := [⟨["a b"], "alice", [" "], "s3cret", ["maybe"], "y"⟩,
      ⟨["alice"], "bob", [], "pw", [], " N "⟩]
    let lines := Console.rawLines (utf8 input)
    Rounds [] rounds ∧ Console.textLines input = rounds.flatMap Round.lines ++ ["left"] ∧
      HeldIn (fun n => [UInt8.ofNat n]) lines rounds
        (hold (fun n => [UInt8.ofNat n]) {} lines) := by
  intro input rounds lines
  have hrounds : Rounds [] rounds :=
    .more (by decide) (by decide) (.last (by decide) (by decide))
  have hinput : Console.textLines input = rounds.flatMap Round.lines ++ ["left"] := by
    decide +kernel
  exact ⟨hrounds, hinput, (hold_succeeds_iff_rounds _ input).2.1 rounds _ hrounds hinput⟩

end DirectoryAuth.Dialogue
