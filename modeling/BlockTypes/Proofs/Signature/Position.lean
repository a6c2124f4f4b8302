import BlockTypes.Proofs.Signature.Cutting
import BlockTypes.Proofs.Signature.Denotation

/-!
# Where signatures are refused

Lexemes are viable if a type starts with them. Every reading can be completed to a type (`Reading.exists_completion`),
so that lexemes are viable exactly as long as they can be taken (`viable_iff`): a type is refused at the first token
that makes the tokens so far the start of no type, or at the end of the text if there is none
(`position_of_readType`). All other errors stand at tokens of the context, at the start or at the end of the text, and
so inside it (`Store.ofSignature_position`).
-/

namespace BlockTypes

namespace Signature

variable {classes : Classes}

/-! ## Starts of types -/

/-- Some type starts with the lexemes. -/
def Viable (xs : List Lexeme) : Prop := ∃ u : Tree .type, xs <+: u.lexemes

/-- A level that is not complete needs one more operand. -/
theorem Level.exists_complete (l : Level) (os : List Opening) :
    ∃ ys l' t, Reading.takes? ⟨l, os⟩ ys = some ⟨l', os⟩ ∧ l'.result? = some t := by
  obtain ⟨ds, current⟩ := l
  cases current with
  | none => exact ⟨[.ident "a"], _, _, rfl, rfl⟩
  | some t => exact ⟨[], _, _, rfl, rfl⟩

/-- Whatever has been read, lexemes can follow that complete the type. -/
theorem Reading.exists_completion (r : Reading) :
    ∃ ys l t, r.takes? ys = some ⟨l, []⟩ ∧ l.result? = some t := by
  obtain ⟨l, os⟩ := r
  -- On the open brackets: the innermost is closed after one type, which is an operand of the level around it.
  induction os generalizing l with
  | nil => exact l.exists_complete []
  | cons o os ih =>
    obtain ⟨ys, inner, t, taken, result⟩ := l.exists_complete (o :: os)
    have ne := Level.ne_start result
    cases o with
    | bracket outer =>
      obtain ⟨zs, l', u, more, result'⟩ := ih (outer.operand (.listOf t))
      refine ⟨ys ++ .rightBracket :: zs, l', u, ?_, result'⟩
      simp [taken, take?, ne, result, more]
    | paren outer parts =>
      obtain ⟨zs, l', u, more, result'⟩ := ih (outer.operand (.tupleOf (parts.reverse ++ [t])))
      refine ⟨ys ++ .rightParen :: zs, l', u, ?_, result'⟩
      simp [taken, take?, ne, result, more]

theorem exists_tree_iff {xs : List Lexeme} :
    (∃ u : Tree .type, u.lexemes = xs) ↔ ∃ l t, Reading.start.takes? xs = some ⟨l, []⟩ ∧ l.result? = some t := by
  have lexemes : (xs.map (Token.mk · 0)).map (·.lexeme) = xs := by simp [Function.comp_def]
  constructor
  · rintro ⟨u, rfl⟩
    obtain ⟨l, taken, result⟩ := u.isTaken [] []
    exact ⟨l, _, taken, result⟩
  · rintro ⟨l, t, taken, result⟩
    have read : readType (xs.map (Token.mk · 0)) 0 = .ok t :=
      readType_eq_ok_iff_takes?.2 ⟨l, by rwa [lexemes], result⟩
    obtain ⟨u, hu, -⟩ := readType_eq_ok_iff.1 read
    exact ⟨u, hu.trans lexemes⟩

/-- Lexemes are viable exactly if they can be taken one after the other. -/
theorem viable_iff {xs : List Lexeme} : Viable xs ↔ (Reading.start.takes? xs).isSome = true := by
  constructor
  · rintro ⟨u, ys, hu⟩
    obtain ⟨l, t, taken, -⟩ := exists_tree_iff.1 ⟨u, rfl⟩
    rw [← hu, Reading.takes?_append] at taken
    obtain ⟨r, hr, -⟩ := Option.bind_eq_some_iff.1 taken
    rw [hr]
    rfl
  · intro h
    obtain ⟨r, hr⟩ := Option.isSome_iff_exists.1 h
    obtain ⟨ys, l, t, taken, result⟩ := r.exists_completion
    obtain ⟨u, hu⟩ := exists_tree_iff.2 ⟨l, t, by rw [Reading.takes?_append, hr]; exact taken, result⟩
    exact ⟨u, ys, hu.symm⟩

instance (xs : List Lexeme) : Decidable (Viable xs) := decidable_of_iff _ viable_iff.symm

theorem viable_take {ts : List Token} (h : Viable (ts.map (·.lexeme))) (i : Nat) :
    Viable ((ts.take i).map (·.lexeme)) := by
  obtain ⟨u, start⟩ := h
  have shorter := List.take_prefix i ts
  exact ⟨u, (shorter.map _).trans start⟩

/-! ## Types -/

/-- The first token that makes the tokens up to it the start of no type is the one at `i`. -/
structure StopsAt (ts : List Token) (i : Nat) (token : Token) : Prop where
  here : ts[i]? = some token
  refused : ¬ Viable ((ts.take (i + 1)).map (·.lexeme))
  before : ∀ j < i, Viable ((ts.take (j + 1)).map (·.lexeme))

theorem StopsAt.unique {ts : List Token} {i j : Nat} {token token' : Token} (h : StopsAt ts i token)
    (h' : StopsAt ts j token') : token = token' := by
  rcases Nat.lt_trichotomy i j with lt | rfl | lt
  · exact absurd (h'.before i lt) h.refused
  · exact Option.some.inj (h.here.symm.trans h'.here)
  · exact absurd (h.before j lt) h'.refused

theorem exists_of_takeAll {r : Reading} {ts : List Token} {problem : Problem} (h : r.takeAll ts = .error problem) :
    ∃ before token after, ts = before ++ token :: after ∧ problem.position = token.position ∧
      (r.takes? (before.map (·.lexeme))).isSome = true ∧
      r.takes? ((before ++ [token]).map (·.lexeme)) = none := by
  induction ts generalizing r with
  | nil => cases h
  | cons token rest ih =>
    rw [Reading.takeAll] at h
    split at h
    next next taken =>
      obtain ⟨before, token', after, rfl, position, some, none⟩ := ih h
      exact ⟨token :: before, token', after, rfl, position, by simpa [taken] using some, by simpa [taken] using none⟩
    next none =>
      obtain rfl := Except.error.inj h
      exact ⟨[], token, rest, rfl, rfl, rfl, by simp [none]⟩

/-- A type is refused at the token where it stops being the start of one, or at the end of the text. -/
theorem position_of_readType {ts : List Token} {length : Nat} {problem : Problem}
    (h : readType ts length = .error problem) :
    (∃ i token, StopsAt ts i token ∧ problem.position = token.position) ∨
      (Viable (ts.map (·.lexeme)) ∧ problem.position = length) := by
  unfold readType at h
  split at h
  next problem' failed =>
    obtain rfl := Except.error.inj h
    obtain ⟨before, token, after, rfl, position, some, none⟩ := exists_of_takeAll failed
    refine .inl ⟨before.length, token, ⟨by simp, ?_, fun j lt => ?_⟩, position⟩
    · rw [viable_iff, show before ++ token :: after = before ++ [token] ++ after by simp,
        List.take_left' (by simp), none]
      simp
    · rw [List.take_append_of_le_length (by omega)]
      exact viable_take (viable_iff.2 some) _
  next r taken =>
    refine .inr ⟨viable_iff.2 (by rw [Reading.takeAll_eq_ok_iff.1 taken]; rfl), ?_⟩
    split at h
    next => cases h
    next => rw [← Except.error.inj h]

/-! ## Contexts -/

/-- The tokens of the type of a signature: all tokens, or those behind the double arrow after a context. -/
inductive TypePart (classes : Classes) : (ts type : List Token) → Prop
  | whole {ts : List Token} (h : ∀ token ∈ ts, token.lexeme ≠ .implies) : TypePart classes ts ts
  | behind {context type : List Token} {double : Token} (c : ContextTree classes)
    (h : c.lexemes = context.map (·.lexeme)) (hd : double.lexeme = .implies) :
    TypePart classes (context ++ double :: type) type

theorem TypePart.ofTokens_eq {ts type : List Token} (h : TypePart classes ts type) (length : Nat) (ne : ts ≠ []) :
    ∃ assertions, ofTokens classes length ts = (readType type length).map (⟨assertions, ·⟩) := by
  rw [ofTokens, if_neg (by simpa using ne)]
  cases h with
  | whole absent =>
    refine ⟨[], ?_⟩
    rw [span_of_notMem (by simpa using absent)]
  | @behind context type double c lexemes hd =>
    have split : (context ++ double :: type).map (·.lexeme) = c.lexemes ++ .implies :: type.map (·.lexeme) := by
      simp [hd, lexemes]
    obtain ⟨context', double', type', hspan, hc, -⟩ := span_implies split c.implies_notMem_lexemes
    obtain ⟨whole, -⟩ := eq_of_span hspan
    have same : context.length = context'.length := by
      simpa using congrArg List.length (lexemes.symm.trans hc.symm)
    obtain ⟨rfl, more⟩ := List.append_inj whole same
    obtain ⟨rfl, rfl⟩ := List.cons.inj more
    refine ⟨c.meaning, ?_⟩
    rw [hspan]
    simp only [readContext_eq_ok_iff.2 ⟨c, lexemes, rfl⟩]

/-- The position of a problem is that of one of the tokens. -/
def Problem.AtToken (problem : Problem) (ts : List Token) : Prop := ∃ token ∈ ts, problem.position = token.position

theorem Problem.AtToken.mono {problem : Problem} {ts us : List Token} (h : problem.AtToken ts)
    (sub : ∀ token ∈ ts, token ∈ us) : problem.AtToken us := by
  obtain ⟨token, mem, position⟩ := h
  exact ⟨token, sub token mem, position⟩

theorem mem_of_mem_groups {ts group : List Token} (h : group ∈ groups ts) : ∀ token ∈ group, token ∈ ts := by
  induction ts generalizing group with
  | nil =>
    obtain rfl : group = [] := by simpa [groups] using h
    simp
  | cons first rest ih =>
    rw [groups] at h
    split at h
    next head more hgroups =>
      rw [hgroups] at ih
      split at h
      next =>
        rcases List.mem_cons.1 h with rfl | mem
        · simp
        · exact fun token ht => List.mem_cons_of_mem _ (ih mem token ht)
      next =>
        rcases List.mem_cons.1 h with rfl | mem
        · refine List.forall_mem_cons.2 ⟨List.mem_cons_self, fun token ht => ?_⟩
          exact List.mem_cons_of_mem _ (ih List.mem_cons_self token ht)
        · exact fun token ht => List.mem_cons_of_mem _ (ih (List.mem_cons_of_mem _ mem) token ht)
    next =>
      obtain rfl : group = [first] := by simpa using h
      simp

theorem position_of_readAssertion {position : Nat} {ts : List Token} {problem : Problem}
    (h : readAssertion classes position ts = .error problem) :
    problem.position = position ∨ problem.AtToken ts := by
  unfold readAssertion at h
  split at h
  next name classAt v varAt =>
    split at h
    next =>
      split at h
      next => cases h
      next =>
        obtain rfl := Except.error.inj h
        exact .inr ⟨_, List.mem_cons_self, rfl⟩
    next =>
      obtain rfl := Except.error.inj h
      exact .inr ⟨_, List.mem_cons_of_mem _ List.mem_cons_self, rfl⟩
  next =>
    obtain rfl := Except.error.inj h
    exact .inr ⟨_, List.mem_cons_self, rfl⟩
  next =>
    obtain rfl := Except.error.inj h
    exact .inl rfl

theorem exists_of_mapM_error {ε α β : Type} {f : α → Except ε β} {xs : List α} {e : ε}
    (h : xs.mapM f = .error e) : ∃ x ∈ xs, f x = .error e := by
  induction xs with
  | nil => cases h
  | cons x xs ih =>
    rw [List.mapM_cons] at h
    cases hx : f x with
    | error e' =>
      rw [hx] at h
      obtain rfl := Except.error.inj h
      exact ⟨x, List.mem_cons_self, hx⟩
    | ok y =>
      cases hxs : xs.mapM f with
      | error e' =>
        obtain ⟨x', mem, failed⟩ := ih (by simpa [hx, hxs, bind, Except.bind] using h)
        exact ⟨x', List.mem_cons_of_mem _ mem, failed⟩
      | ok ys => simp [hx, hxs, bind, Except.bind, pure, Except.pure] at h

theorem position_of_readContext {stop : Nat} {ts : List Token} {problem : Problem}
    (h : readContext classes stop ts = .error problem) : problem.position = stop ∨ problem.AtToken ts := by
  cases ts with
  | nil =>
    obtain rfl := Except.error.inj h
    exact .inl rfl
  | cons first rest =>
    refine .inr ?_
    have here : ∀ {problem : Problem}, problem.position = first.position → problem.AtToken (first :: rest) :=
      fun position => ⟨first, List.mem_cons_self, position⟩
    rw [readContext] at h
    split at h
    next =>
      simp only at h
      split at h
      next =>
        obtain ⟨group, mem, failed⟩ := exists_of_mapM_error h
        rcases position_of_readAssertion failed with position | atToken
        · exact here position
        · refine atToken.mono fun token ht => List.mem_cons_of_mem _ (List.mem_of_mem_dropLast ?_)
          exact mem_of_mem_groups mem token ht
      next =>
        obtain rfl := Except.error.inj h
        refine ⟨_, ?_, rfl⟩
        rw [← List.getLast_eq_getLastD (List.cons_ne_nil first rest)]
        exact List.getLast_mem _
    next =>
      cases failed : readAssertion classes first.position (first :: rest) with
      | ok a => simp [failed, Except.map] at h
      | error problem' =>
        obtain rfl : problem' = problem := by simpa [failed, Except.map] using h
        rcases position_of_readAssertion failed with position | atToken
        · exact here position
        · exact atToken

/-- Problems with tokens stand at tokens, or at the start or the end of the text. -/
theorem position_of_ofTokens {length : Nat} {ts : List Token} {problem : Problem}
    (h : ofTokens classes length ts = .error problem) :
    problem.position = 0 ∨ problem.position = length ∨ problem.AtToken ts := by
  have type : ∀ {type : List Token} {assertions : List Assertion}, (∀ token ∈ type, token ∈ ts) →
      (readType type length).map (Signature.mk assertions ·) = .error problem →
      problem.position = length ∨ problem.AtToken ts := by
    intro type assertions sub failed
    cases read : readType type length with
    | ok t => simp [read, Except.map] at failed
    | error problem' =>
      obtain rfl : problem' = problem := by simpa [read, Except.map] using failed
      rcases position_of_readType read with ⟨i, token, stops, position⟩ | ⟨-, position⟩
      · exact .inr ⟨token, sub token (List.mem_of_getElem? stops.here), position⟩
      · exact .inl position
  unfold ofTokens at h
  split at h
  next =>
    obtain rfl := Except.error.inj h
    exact .inl rfl
  next =>
    refine .inr ?_
    split at h
    next hspan =>
      obtain ⟨rfl, -⟩ := eq_of_span hspan
      exact type (by simp) h
    next context double rest hspan =>
      obtain ⟨rfl, -⟩ := eq_of_span hspan
      split at h
      next problem' failed =>
        obtain rfl := Except.error.inj h
        rcases position_of_readContext failed with position | atToken
        · exact .inr ⟨double, by simp, position⟩
        · exact .inr (atToken.mono fun token mem => List.mem_append_left _ mem)
      next => exact type (fun token mem => by simp [mem]) h

/-! ## Texts -/

theorem position_of_readWide {text : WideText} {e : Error} (h : readWide classes text = .error e) :
    e.position ≤ text.points.length := by
  rw [readWide_eq] at h
  cases cut : tokensOf text with
  | error problem =>
    obtain rfl : ⟨problem, text⟩ = e := by simpa [cut, bind, Except.bind, Except.mapError] using h
    obtain ⟨p, -, blocked⟩ := blockedAt_of_error cut
    exact Nat.le_of_lt (List.getElem?_eq_some_iff.1 blocked.here).1
  | ok ts =>
    cases failed : ofTokens classes text.points.length ts with
    | ok sig => simp [cut, failed, bind, Except.bind, Except.mapError] at h
    | error problem =>
      obtain rfl : ⟨problem, text⟩ = e := by simpa [cut, failed, bind, Except.bind, Except.mapError] using h
      rcases position_of_ofTokens failed with position | position | ⟨token, mem, position⟩
      · exact position.le.trans (Nat.zero_le _)
      · exact position.le
      · have := (tokensOf_eq_ok_iff.1 cut).end_le mem
        exact position.le.trans (by omega)

/-- The lexemes are the start of a type, but no type. -/
def ProperStart (xs : List Lexeme) : Prop := ∃ u : Tree .type, xs <+: u.lexemes ∧ u.lexemes ≠ xs

theorem ProperStart.viable {xs : List Lexeme} (h : ProperStart xs) : Viable xs := by
  obtain ⟨u, start, -⟩ := h
  exact ⟨u, start⟩

theorem position_of_typePart {text : WideText} {e : Error} {ts type : List Token}
    (h : readWide classes text = .error e) (tokenized : Tokenized text ts) (ne : ts ≠ [])
    (part : TypePart classes ts type) :
    ∃ problem, readType type text.points.length = .error problem ∧ e.position = problem.position := by
  obtain ⟨str, rfl, scanned⟩ := tokenized
  obtain ⟨assertions, read⟩ := part.ofTokens_eq (WideText.ofString str).points.length ne
  rw [readWide_eq, tokensOf_ofString, scanned] at h
  simp only [bind, Except.bind, read] at h
  cases failed : readType type (WideText.ofString str).points.length with
  | ok t => simp [failed, Except.map, Except.mapError] at h
  | error problem =>
    obtain rfl : ⟨problem, .ofString str⟩ = e := by simpa [failed, Except.map, Except.mapError] using h
    exact ⟨problem, rfl, rfl⟩

end Signature

open Signature

/-- Every error stands inside the text. Where the context is in order, it stands at the first token of the type with
which the tokens so far are the start of no type; if there is none, they are the start of a type that goes on, and
the error stands at the end of the text. -/
theorem Store.ofSignature_position {s : Store} {classes : Classes} {text : WideText} {e : Error}
    (h : s.ofSignature classes text = .error e) :
    e.position ≤ text.points.length ∧
    ∀ ts type, Tokenized text ts → ts ≠ [] → TypePart classes ts type →
      (∀ i token, StopsAt type i token → e.position = token.position) ∧
      ((∀ i < type.length, Viable ((type.take (i + 1)).map (·.lexeme))) ↔ ProperStart (type.map (·.lexeme))) ∧
      (ProperStart (type.map (·.lexeme)) → e.position = text.points.length) := by
  have failed : readWide classes text = .error e := by
    cases read : readWide classes text with
    | ok sig => simp [ofSignature, read, Except.map] at h
    | error e' => simpa [ofSignature, read, Except.map] using h
  refine ⟨position_of_readWide failed, fun ts type tokenized ne part => ?_⟩
  obtain ⟨problem, refused, position⟩ := position_of_typePart failed tokenized ne part
  have underived : ∀ u : Tree .type, u.lexemes ≠ type.map (·.lexeme) := by
    intro u lexemes
    rw [readType_eq_ok_iff.2 ⟨u, lexemes, rfl⟩] at refused
    cases refused
  rw [position]
  rcases position_of_readType refused with ⟨i, token, stops, place⟩ | ⟨viable, place⟩
  · have notViable : ¬ Viable (type.map (·.lexeme)) := fun viable => stops.refused (viable_take viable _)
    have lt : i < type.length := (List.getElem?_eq_some_iff.1 stops.here).1
    refine ⟨fun j token' stops' => place.trans (by rw [stops.unique stops']), ?_, ?_⟩
    · exact ⟨fun all => absurd (all i lt) stops.refused, fun proper => absurd proper.viable notViable⟩
    · exact fun proper => absurd proper.viable notViable
  · refine ⟨fun i token stops => absurd (viable_take viable _) stops.refused, ⟨fun _ => ?_, fun _ => ?_⟩, fun _ => place⟩
    · obtain ⟨u, start⟩ := viable
      exact ⟨u, start, underived u⟩
    · exact fun i _ => viable_take viable _

/-- A bracket that is closed where an operand is missing, behind a context; and one that is never closed. -/
theorem Store.ofSignature_position_bracket :
    let num : TypeClass := ⟨"Num", .ofList ["Int"]⟩
    let classes : Classes := fun name => if name = "Num" then some num else none
    (∃ e, (∅ : Store).ofSignature classes (.ofString "Num a => [a -> ] b") = .error e ∧ e.position = 15) ∧
      ∃ e, (∅ : Store).ofSignature classes (.ofString "[a -> b ") = .error e ∧ e.position = 8 := by
  intro num classes
  have missing : ∃ e, (∅ : Store).ofSignature classes (.ofString "Num a => [a -> ] b") = .error e :=
    ⟨⟨⟨.unexpected "]", 15⟩, .ofString "Num a => [a -> ] b"⟩, by decide +kernel⟩
  have unclosed : ∃ e, (∅ : Store).ofSignature classes (.ofString "[a -> b ") = .error e :=
    ⟨⟨⟨.expected "]", 8⟩, .ofString "[a -> b "⟩, by decide +kernel⟩
  obtain ⟨e, he⟩ := missing
  obtain ⟨e', he'⟩ := unclosed
  refine ⟨⟨e, he, ?_⟩, e', he', ?_⟩
  · have tokenized : Tokenized (.ofString "Num a => [a -> ] b") [⟨.ident "Num", 0⟩, ⟨.ident "a", 4⟩, ⟨.implies, 6⟩,
        ⟨.leftBracket, 9⟩, ⟨.ident "a", 10⟩, ⟨.arrow, 12⟩, ⟨.rightBracket, 15⟩, ⟨.ident "b", 17⟩] :=
      ⟨_, rfl, by decide +kernel⟩
    have part := @TypePart.behind classes [⟨.ident "Num", 0⟩, ⟨.ident "a", 4⟩]
      [⟨.leftBracket, 9⟩, ⟨.ident "a", 10⟩, ⟨.arrow, 12⟩, ⟨.rightBracket, 15⟩, ⟨.ident "b", 17⟩] ⟨.implies, 6⟩
      (.single ⟨"Num", num, rfl, "a", by decide⟩) rfl rfl
    exact ((ofSignature_position he).2 _ _ tokenized (by decide) part).1 3 ⟨.rightBracket, 15⟩
      ⟨rfl, by decide +kernel, by decide +kernel⟩
  · have tokenized : Tokenized (.ofString "[a -> b ")
        [⟨.leftBracket, 0⟩, ⟨.ident "a", 1⟩, ⟨.arrow, 3⟩, ⟨.ident "b", 6⟩] := ⟨_, rfl, by decide +kernel⟩
    obtain ⟨-, starts, atEnd⟩ := (ofSignature_position he').2 _ _ tokenized (by decide) (.whole (by decide))
    exact atEnd (starts.1 (by decide +kernel))

end BlockTypes
