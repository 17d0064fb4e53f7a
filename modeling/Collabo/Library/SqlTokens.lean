import Mathlib.Data.List.Basic
import Mathlib.Data.List.Chain
import Mathlib.Tactic.Common

/-!
# The tokens of a MySQL statement

A statement is read one byte at a time. A quoted text ends at the first of its
marks that is neither doubled nor behind a backslash; a backslash stands for a
character with the one behind it, and is kept in front of `%` and `_`. A word
that begins as a number is one only if it goes on as one. Comments are left out.
Hexadecimal numbers are words here, and a comment with `!` is a comment.
-/

namespace SqlTokens

set_option autoImplicit false

abbrev Bytes := List UInt8

inductive Token where
  | word (text : Bytes)
  | number (text : Bytes)
  | quoted (mark : UInt8) (value : Bytes)
  | symbol (char : UInt8)
  deriving DecidableEq, Repr

/-- The part of a number that has been read last. `fractional` says that there is
a point in front of the exponent. -/
inductive NumberPart where
  | point
  | whole
  | fraction
  | exponentMark (fractional : Bool)
  | exponentSign (fractional : Bool)
  | exponent
  deriving DecidableEq, Repr

inductive Mode where
  | blank
  | word (text : Bytes)
  | number (part : NumberPart) (text : Bytes)
  | quoted (mark : UInt8) (value : Bytes)
  | escaped (mark : UInt8) (value : Bytes)
  | closing (mark : UInt8) (value : Bytes)
  | dash
  | dashes
  | slash
  | lineComment
  | blockComment
  | blockStar
  | failed
  deriving DecidableEq, Repr

structure Lexer where
  tokens : List Token
  mode : Mode
  deriving DecidableEq, Repr

def isDigit (char : UInt8) : Bool := 48 ≤ char && char ≤ 57

def isBlank (char : UInt8) : Bool := (9 ≤ char && char ≤ 13) || char = 32

def isWordChar (char : UInt8) : Bool :=
  isDigit char || (65 ≤ char && char ≤ 90) || (97 ≤ char && char ≤ 122) || char = 95 ||
    char = 36 || 128 ≤ char

def isMark (char : UInt8) : Bool := char = 39 || char = 34 || char = 96

def NumberPart.next (part : NumberPart) (char : UInt8) : Option NumberPart :=
  let isExponent : Bool := char = 69 || char = 101
  let isSign : Bool := char = 43 || char = 45
  match part with
  | .point => if isDigit char then some .fraction else none
  | .whole =>
      if isDigit char then some .whole
      else if char = 46 then some .fraction
      else if isExponent then some (.exponentMark false)
      else none
  | .fraction =>
      if isDigit char then some .fraction
      else if isExponent then some (.exponentMark true)
      else none
  | .exponentMark fractional =>
      if isDigit char then some .exponent
      else if isSign then some (.exponentSign fractional)
      else none
  | .exponentSign _ => if isDigit char then some .exponent else none
  | .exponent => if isDigit char then some .exponent else none

def NumberPart.complete : NumberPart → Bool
  | .point => false
  | .whole => true
  | .fraction => true
  | .exponentMark _ => false
  | .exponentSign _ => false
  | .exponent => true

def NumberPart.start (char : UInt8) : Option NumberPart :=
  if isDigit char then some .whole else if char = 46 then some .point else none

/-- What a backslash and the character behind it stand for. -/
def unescaped (char : UInt8) : Bytes :=
  if char = 37 ∨ char = 95 then [92, char]
  else if char = 48 then [0]
  else if char = 98 then [8]
  else if char = 110 then [10]
  else if char = 114 then [13]
  else if char = 116 then [9]
  else if char = 90 then [26]
  else [char]

def opensOther (tokens : List Token) (char : UInt8) : Lexer :=
  if isBlank char then { tokens := tokens, mode := .blank }
  else if isWordChar char then { tokens := tokens, mode := .word [char] }
  else if isMark char then { tokens := tokens, mode := .quoted char [] }
  else if char = 45 then { tokens := tokens, mode := .dash }
  else if char = 47 then { tokens := tokens, mode := .slash }
  else if char = 35 then { tokens := tokens, mode := .lineComment }
  else { tokens := tokens ++ [.symbol char], mode := .blank }

/-- A character that no token before it goes on with. -/
def opens (tokens : List Token) (char : UInt8) : Lexer :=
  match NumberPart.start char with
  | some part => { tokens := tokens, mode := .number part [char] }
  | none => opensOther tokens char

/-- The tokens of a number that goes no further, or nothing where it is malformed. -/
def NumberPart.close (part : NumberPart) (text : Bytes) : Option (List Token) :=
  match part with
  | .point => some [.symbol 46]
  | .whole => some [.number text]
  | .fraction => some [.number text]
  | .exponentMark false => some [.word text]
  | .exponentMark true => none
  | .exponentSign false => some [.word text.dropLast, .symbol (text.getLastD 0)]
  | .exponentSign true => none
  | .exponent => some [.number text]

/-- The number becomes a word with a further word character. -/
def NumberPart.joins : NumberPart → Bool
  | .point => false
  | .whole => true
  | .fraction => false
  | .exponentMark fractional => !fractional
  | .exponentSign _ => false
  | .exponent => false

def leaveNumber (tokens : List Token) (part : NumberPart) (text : Bytes) (char : UInt8) : Lexer :=
  if part.joins && isWordChar char then { tokens := tokens, mode := .word (text ++ [char]) }
  else
    match part.close text with
    | some closed => opens (tokens ++ closed) char
    | none => { tokens := tokens, mode := .failed }

def step (lexer : Lexer) (char : UInt8) : Lexer :=
  let tokens := lexer.tokens
  match lexer.mode with
  | .blank => opens tokens char
  | .word text =>
      if isWordChar char then { lexer with mode := .word (text ++ [char]) }
      else opens (tokens ++ [.word text]) char
  | .number part text =>
      match part.next char with
      | some next => { lexer with mode := .number next (text ++ [char]) }
      | none => leaveNumber tokens part text char
  | .quoted mark value =>
      if char = mark then { lexer with mode := .closing mark value }
      else if char = 92 ∧ mark ≠ 96 then { lexer with mode := .escaped mark value }
      else { lexer with mode := .quoted mark (value ++ [char]) }
  | .escaped mark value => { lexer with mode := .quoted mark (value ++ unescaped char) }
  | .closing mark value =>
      if char = mark then { lexer with mode := .quoted mark (value ++ [mark]) }
      else opens (tokens ++ [.quoted mark value]) char
  | .dash =>
      if char = 45 then { lexer with mode := .dashes }
      else opens (tokens ++ [.symbol 45]) char
  | .dashes =>
      if isBlank char then { lexer with mode := .lineComment }
      else if char = 45 then { tokens := tokens ++ [.symbol 45], mode := .dashes }
      else opens (tokens ++ [.symbol 45, .symbol 45]) char
  | .slash =>
      if char = 42 then { lexer with mode := .blockComment }
      else opens (tokens ++ [.symbol 47]) char
  | .lineComment => if char = 10 then { lexer with mode := .blank } else lexer
  | .blockComment => if char = 42 then { lexer with mode := .blockStar } else lexer
  | .blockStar =>
      if char = 47 then { lexer with mode := .blank }
      else if char = 42 then lexer
      else { lexer with mode := .blockComment }
  | .failed => lexer

/-- The tokens at the end of the statement, unless it ends within one. -/
def Lexer.finish (lexer : Lexer) : Option (List Token) :=
  match lexer.mode with
  | .blank => some lexer.tokens
  | .word text => some (lexer.tokens ++ [.word text])
  | .number part text => (part.close text).map (lexer.tokens ++ ·)
  | .quoted _ _ => none
  | .escaped _ _ => none
  | .closing mark value => some (lexer.tokens ++ [.quoted mark value])
  | .dash => some (lexer.tokens ++ [.symbol 45])
  | .dashes => some lexer.tokens
  | .slash => some (lexer.tokens ++ [.symbol 47])
  | .lineComment => some lexer.tokens
  | .blockComment => none
  | .blockStar => none
  | .failed => none

def run (lexer : Lexer) (text : Bytes) : Lexer := text.foldl step lexer

def fresh : Lexer := { tokens := [], mode := .blank }

def lex (text : Bytes) : Option (List Token) := (run fresh text).finish

theorem run_append (lexer : Lexer) (first second : Bytes) :
    run lexer (first ++ second) = run (run lexer first) second := List.foldl_append

theorem run_concat (lexer : Lexer) (text : Bytes) (char : UInt8) :
    run lexer (text ++ [char]) = step (run lexer text) char := run_append lexer text [char]

section Growth

theorem opens_tokens (tokens : List Token) (char : UInt8) :
    tokens <+: (opens tokens char).tokens := by
  unfold opens
  cases NumberPart.start char with
  | some part => exact List.prefix_rfl
  | none =>
      change tokens <+: (opensOther tokens char).tokens
      unfold opensOther
      split_ifs
      · exact List.prefix_rfl
      · exact List.prefix_rfl
      · exact List.prefix_rfl
      · exact List.prefix_rfl
      · exact List.prefix_rfl
      · exact List.prefix_rfl
      · exact List.prefix_append _ _

theorem opens_after (tokens more : List Token) (char : UInt8) :
    tokens <+: (opens (tokens ++ more) char).tokens :=
  (List.prefix_append tokens more).trans (opens_tokens (tokens ++ more) char)

theorem leave_number_tokens (tokens : List Token) (part : NumberPart) (text : Bytes)
    (char : UInt8) : tokens <+: (leaveNumber tokens part text char).tokens := by
  unfold leaveNumber
  split_ifs
  · exact List.prefix_rfl
  · cases part.close text with
    | some closed => exact opens_after tokens closed char
    | none => exact List.prefix_rfl

theorem step_tokens (lexer : Lexer) (char : UInt8) :
    lexer.tokens <+: (step lexer char).tokens := by
  unfold step
  cases lexer.mode with
  | blank => exact opens_tokens _ _
  | number part text =>
      dsimp only
      cases part.next char with
      | some next => exact List.prefix_rfl
      | none => exact leave_number_tokens _ _ _ _
  | escaped mark value => exact List.prefix_rfl
  | failed => exact List.prefix_rfl
  | dashes =>
      dsimp only
      split_ifs
      · exact List.prefix_rfl
      · exact List.prefix_append _ _
      · exact opens_after _ _ _
  | quoted mark value =>
      dsimp only
      split_ifs <;> exact List.prefix_rfl
  | blockStar =>
      dsimp only
      split_ifs <;> exact List.prefix_rfl
  | lineComment =>
      dsimp only
      split_ifs <;> exact List.prefix_rfl
  | blockComment =>
      dsimp only
      split_ifs <;> exact List.prefix_rfl
  | word text =>
      dsimp only
      split_ifs
      · exact List.prefix_rfl
      · exact opens_after _ _ _
  | closing mark value =>
      dsimp only
      split_ifs
      · exact List.prefix_rfl
      · exact opens_after _ _ _
  | dash =>
      dsimp only
      split_ifs
      · exact List.prefix_rfl
      · exact opens_after _ _ _
  | slash =>
      dsimp only
      split_ifs
      · exact List.prefix_rfl
      · exact opens_after _ _ _

theorem run_tokens (lexer : Lexer) (text : Bytes) : lexer.tokens <+: (run lexer text).tokens := by
  induction text generalizing lexer with
  | nil => exact List.prefix_rfl
  | cons char rest induction => exact (step_tokens lexer char).trans (induction (step lexer char))

theorem finish_tokens {lexer : Lexer} {tokens : List Token}
    (finished : lexer.finish = some tokens) : lexer.tokens <+: tokens := by
  unfold Lexer.finish at finished
  cases mode : lexer.mode with
  | number part text =>
      simp only [mode, Option.map_eq_some_iff] at finished
      rcases finished with ⟨closed, _, same⟩
      rw [← same]
      exact List.prefix_append _ _
  | blank =>
      simp only [mode, Option.some.injEq] at finished
      cases finished
      exact List.prefix_rfl
  | dashes =>
      simp only [mode, Option.some.injEq] at finished
      cases finished
      exact List.prefix_rfl
  | lineComment =>
      simp only [mode, Option.some.injEq] at finished
      cases finished
      exact List.prefix_rfl
  | word text =>
      simp only [mode, Option.some.injEq] at finished
      rw [← finished]
      exact List.prefix_append _ _
  | closing mark value =>
      simp only [mode, Option.some.injEq] at finished
      rw [← finished]
      exact List.prefix_append _ _
  | dash =>
      simp only [mode, Option.some.injEq] at finished
      rw [← finished]
      exact List.prefix_append _ _
  | slash =>
      simp only [mode, Option.some.injEq] at finished
      rw [← finished]
      exact List.prefix_append _ _
  | quoted mark value =>
      simp only [mode] at finished
      cases finished
  | escaped mark value =>
      simp only [mode] at finished
      cases finished
  | blockComment =>
      simp only [mode] at finished
      cases finished
  | blockStar =>
      simp only [mode] at finished
      cases finished
  | failed =>
      simp only [mode] at finished
      cases finished

end Growth

section Quoted

/-- A text that stands for itself between two marks: it has no mark in it, and
each backslash has a `%` or a `_` behind it. -/
structure Plain (mark : UInt8) (text : Bytes) : Prop where
  unmarked : mark ∉ text
  kept : text.IsChain fun char next => char = 92 → next = 37 ∨ next = 95
  ended : text.getLast? ≠ some 92

instance (mark : UInt8) (text : Bytes) : Decidable (Plain mark text) :=
  decidable_of_iff
    (mark ∉ text ∧ (text.IsChain fun char next => char = 92 → next = 37 ∨ next = 95) ∧
      text.getLast? ≠ some 92)
    ⟨fun ⟨unmarked, kept, ended⟩ => ⟨unmarked, kept, ended⟩,
      fun ⟨unmarked, kept, ended⟩ => ⟨unmarked, kept, ended⟩⟩

/-- What has been read of a quoted text is the text and plain, or it is shorter. -/
def Kept (mark : UInt8) (text value : Bytes) : Prop :=
  (value = text ∧ Plain mark text) ∨ value.length < text.length

inductive Reading (mark : UInt8) (tokens : List Token) (text : Bytes) : Lexer → Prop where
  | within (value : Bytes) (kept : Kept mark text value) :
      Reading mark tokens text { tokens := tokens, mode := .quoted mark value }
  | escaping (before value : Bytes) (same : text = before ++ [92]) (kept : Kept mark before value) :
      Reading mark tokens text { tokens := tokens, mode := .escaped mark value }
  | closing (value : Bytes) (shorter : value.length < text.length) :
      Reading mark tokens text { tokens := tokens, mode := .closing mark value }
  | closed (value : Bytes) (lexer : Lexer) (shorter : value.length < text.length)
      (behind : tokens ++ [.quoted mark value] <+: lexer.tokens) :
      Reading mark tokens text lexer

theorem plain_nil (mark : UInt8) : Plain mark [] where
  unmarked := List.not_mem_nil
  kept := List.IsChain.nil
  ended := nofun

theorem plain_of_not_mem {mark : UInt8} {text : Bytes} (unmarked : mark ∉ text)
    (unescaped : 92 ∉ text) : Plain mark text where
  unmarked := unmarked
  kept := by
    apply List.isChain_iff_getElem.mpr
    intro index inside escape
    exact absurd (escape ▸ List.getElem_mem _) unescaped
  ended last := unescaped (List.mem_of_getLast? last)

theorem Kept.length_le {mark : UInt8} {text value : Bytes} (kept : Kept mark text value) :
    value.length ≤ text.length := by
  rcases kept with ⟨same, _⟩ | shorter
  · exact Nat.le_of_eq (congrArg List.length same)
  · exact Nat.le_of_lt shorter

theorem plain_concat {mark char : UInt8} {text : Bytes} (plain : Plain mark text)
    (unmarked : char ≠ mark) (unescaped : char ≠ 92) : Plain mark (text ++ [char]) where
  unmarked := by
    rw [List.mem_append, List.mem_singleton]
    rintro (inside | last)
    · exact plain.unmarked inside
    · exact unmarked last.symm
  kept := by
    rw [List.isChain_append]
    refine ⟨plain.kept, List.isChain_singleton char, ?_⟩
    intro last lastMember _ _ escape
    rw [escape] at lastMember
    exact absurd lastMember plain.ended
  ended := by
    rw [List.getLast?_concat]
    exact fun same => unescaped (Option.some.inj same)

theorem plain_pair {mark char : UInt8} {text : Bytes} (plain : Plain mark text)
    (markOther : mark ≠ 92 ∧ mark ≠ char) (pattern : char = 37 ∨ char = 95) :
    Plain mark (text ++ [92, char]) where
  unmarked := by
    simp only [List.mem_append, List.mem_cons, List.not_mem_nil, or_false]
    rintro (inside | escape | last)
    · exact plain.unmarked inside
    · exact markOther.1 escape
    · exact markOther.2 last
  kept := by
    rw [List.isChain_append]
    refine ⟨plain.kept, List.isChain_pair.mpr fun _ => pattern, ?_⟩
    intro last lastMember _ _ escape
    rw [escape] at lastMember
    exact absurd lastMember plain.ended
  ended := by
    rw [show text ++ [92, char] = (text ++ [92]) ++ [char] by simp, List.getLast?_concat]
    intro same
    rw [Option.some.inj same] at pattern
    exact absurd pattern (by decide)

variable {mark : UInt8} {tokens : List Token}

theorem kept_concat {char : UInt8} {text value : Bytes} (kept : Kept mark text value)
    (unmarked : char ≠ mark) (unescaped : char ≠ 92) :
    Kept mark (text ++ [char]) (value ++ [char]) := by
  rcases kept with ⟨same, plain⟩ | shorter
  · exact .inl ⟨by rw [same], plain_concat plain unmarked unescaped⟩
  · apply Or.inr
    simp only [List.length_append, List.length_singleton]
    omega

/-- A backslash and the character behind it are kept, or one of the two is lost. -/
theorem kept_unescaped {char : UInt8} {text value : Bytes} (kept : Kept mark text value)
    (textMark : mark = 39 ∨ mark = 34) :
    Kept mark (text ++ [92] ++ [char]) (value ++ unescaped char) := by
  have bounded := kept.length_le
  by_cases pattern : char = 37 ∨ char = 95
  · have pair : unescaped char = [92, char] := if_pos pattern
    rw [pair, List.append_assoc]
    rcases kept with ⟨same, plain⟩ | shorter
    · refine .inl ⟨by rw [same]; rfl, plain_pair plain ?_ pattern⟩
      rcases textMark with single | double <;> rcases pattern with percent | underscore
      · rw [single, percent]; decide
      · rw [single, underscore]; decide
      · rw [double, percent]; decide
      · rw [double, underscore]; decide
    · apply Or.inr
      simp only [List.length_append, List.length_cons, List.length_nil]
      omega
  · have one : (unescaped char).length = 1 := by
      unfold unescaped
      split_ifs <;> rfl
    apply Or.inr
    simp only [List.length_append, List.length_singleton, one]
    omega

theorem reading_step {text : Bytes} {lexer : Lexer} {char : UInt8}
    (textMark : mark = 39 ∨ mark = 34) (reading : Reading mark tokens text lexer) :
    Reading mark tokens (text ++ [char]) (step lexer char) := by
  have notEscape : mark ≠ 92 := by rcases textMark with same | same <;> rw [same] <;> decide
  have notTick : mark ≠ 96 := by rcases textMark with same | same <;> rw [same] <;> decide
  cases reading with
  | within value kept =>
      by_cases marked : char = mark
      · rw [show step { tokens := tokens, mode := .quoted mark value } char =
          { tokens := tokens, mode := .closing mark value } by simp only [step, if_pos marked]]
        apply Reading.closing
        have bounded := kept.length_le
        rw [List.length_append, List.length_singleton]
        omega
      · by_cases escape : char = 92
        · rw [show step { tokens := tokens, mode := .quoted mark value } char =
            { tokens := tokens, mode := .escaped mark value } by
              simp only [step, if_neg marked, if_pos (And.intro escape notTick)]]
          exact .escaping text value (by rw [escape]) kept
        · rw [show step { tokens := tokens, mode := .quoted mark value } char =
            { tokens := tokens, mode := .quoted mark (value ++ [char]) } by
              simp only [step, if_neg marked, escape, false_and, if_false]]
          exact .within _ (kept_concat kept marked escape)
  | escaping before value same kept =>
      rw [same]
      exact .within _ (kept_unescaped kept textMark)
  | closing value shorter =>
      by_cases marked : char = mark
      · rw [show step { tokens := tokens, mode := .closing mark value } char =
          { tokens := tokens, mode := .quoted mark (value ++ [mark]) } by
            simp only [step, if_pos marked]]
        apply Reading.within
        apply Or.inr
        simp only [List.length_append, List.length_singleton]
        omega
      · rw [show step { tokens := tokens, mode := .closing mark value } char =
          opens (tokens ++ [.quoted mark value]) char by simp only [step, if_neg marked]]
        refine .closed value _ ?_ (opens_tokens _ _)
        rw [List.length_append]
        omega
  | closed value lexer shorter behind =>
      refine .closed value _ ?_ (behind.trans (step_tokens lexer char))
      rw [List.length_append]
      omega

theorem reading_run (textMark : mark = 39 ∨ mark = 34) (text : Bytes) :
    Reading mark tokens text (run { tokens := tokens, mode := .quoted mark [] } text) := by
  induction text using List.reverseRecOn with
  | nil => exact .within [] (.inl ⟨rfl, plain_nil mark⟩)
  | append_singleton text char induction =>
      rw [run_concat]
      exact reading_step textMark induction

theorem run_plain (textMark : mark = 39 ∨ mark = 34) :
    ∀ (text value : Bytes), Plain mark text →
      run { tokens := tokens, mode := .quoted mark value } text =
        { tokens := tokens, mode := .quoted mark (value ++ text) } := by
  have notTick : mark ≠ 96 := by rcases textMark with same | same <;> rw [same] <;> decide
  intro text
  induction text using List.twoStepInduction with
  | nil =>
      intro value _
      rw [List.append_nil]
      rfl
  | singleton char =>
      intro value plain
      have unmarked : char ≠ mark := by
        intro same
        exact plain.unmarked (by rw [same]; exact List.mem_cons_self)
      have unescaped : char ≠ 92 := fun same => plain.ended (by rw [same]; rfl)
      simp only [run, List.foldl_cons, List.foldl_nil, step, if_neg unmarked, unescaped, false_and,
        if_false]
  | cons_cons char next rest shorter longer =>
      intro value plain
      have unmarked : char ≠ mark := by
        intro same
        exact plain.unmarked (by rw [same]; exact List.mem_cons_self)
      have kept := List.isChain_cons_cons.mp plain.kept
      have tail : Plain mark (next :: rest) :=
        { unmarked := fun member => plain.unmarked (List.mem_cons_of_mem char member)
          kept := kept.2
          ended := plain.ended }
      by_cases escape : char = 92
      · have pattern := kept.1 escape
        have restPlain : Plain mark rest :=
          { unmarked := fun member => tail.unmarked (List.mem_cons_of_mem next member)
            kept := tail.kept.tail
            ended := by
              intro last
              apply tail.ended
              rw [List.getLast?_cons, last]
              rfl }
        have pair : step (step { tokens := tokens, mode := .quoted mark value } char) next =
            { tokens := tokens, mode := .quoted mark (value ++ [char, next]) } := by
          simp only [step, if_neg unmarked, if_pos (And.intro escape notTick)]
          rw [unescaped, if_pos pattern, escape]
        calc run { tokens := tokens, mode := .quoted mark value } (char :: next :: rest)
            = run (step (step { tokens := tokens, mode := .quoted mark value } char) next) rest :=
              rfl
          _ = run { tokens := tokens, mode := .quoted mark (value ++ [char, next]) } rest := by
              rw [pair]
          _ = { tokens := tokens, mode := .quoted mark (value ++ [char, next] ++ rest) } :=
              shorter _ restPlain
          _ = { tokens := tokens, mode := .quoted mark (value ++ (char :: next :: rest)) } := by
              rw [List.append_assoc]
              rfl
      · have one : step { tokens := tokens, mode := .quoted mark value } char =
            { tokens := tokens, mode := .quoted mark (value ++ [char]) } := by
          simp only [step, if_neg unmarked, escape, false_and, if_false]
        calc run { tokens := tokens, mode := .quoted mark value } (char :: next :: rest)
            = run (step { tokens := tokens, mode := .quoted mark value } char) (next :: rest) := rfl
          _ = run { tokens := tokens, mode := .quoted mark (value ++ [char]) } (next :: rest) := by
              rw [one]
          _ = { tokens := tokens, mode := .quoted mark (value ++ [char] ++ (next :: rest)) } :=
              longer _ _ tail
          _ = { tokens := tokens, mode := .quoted mark (value ++ (char :: next :: rest)) } := by
              rw [List.append_assoc]
              rfl

/-- The states behind the closing mark: at the end of the text itself, at the end
of a shorter one, still within it, or past a shorter one. -/
inductive Marked (mark : UInt8) (tokens : List Token) (text : Bytes) : Lexer → Prop where
  | plain (plain : Plain mark text) :
      Marked mark tokens text { tokens := tokens, mode := .closing mark text }
  | shorter (value : Bytes) (shorter : value.length < text.length) :
      Marked mark tokens text { tokens := tokens, mode := .closing mark value }
  | within (value : Bytes) :
      Marked mark tokens text { tokens := tokens, mode := .quoted mark value }
  | closed (value : Bytes) (lexer : Lexer) (shorter : value.length < text.length)
      (behind : tokens ++ [.quoted mark value] <+: lexer.tokens) :
      Marked mark tokens text lexer

theorem marked_run (textMark : mark = 39 ∨ mark = 34) (text : Bytes) :
    Marked mark tokens text
      (run { tokens := tokens, mode := .quoted mark [] } (text ++ [mark])) := by
  have notEscape : mark ≠ 92 := by rcases textMark with same | same <;> rw [same] <;> decide
  rw [run_concat]
  have reading : Reading mark tokens text
      (run { tokens := tokens, mode := .quoted mark [] } text) := reading_run textMark text
  generalize run { tokens := tokens, mode := .quoted mark [] } text = lexer at reading
  cases reading with
  | within value kept =>
      have closes : step { tokens := tokens, mode := .quoted mark value } mark =
          { tokens := tokens, mode := .closing mark value } := by simp only [step, if_true]
      rw [closes]
      rcases kept with ⟨same, plain⟩ | shorter
      · rw [same]
        exact .plain plain
      · exact .shorter value shorter
  | escaping before value same kept => exact .within _
  | closing value shorter =>
      have doubled : step { tokens := tokens, mode := .closing mark value } mark =
          { tokens := tokens, mode := .quoted mark (value ++ [mark]) } := by
        simp only [step, if_true]
      rw [doubled]
      exact .within _
  | closed value lexer shorter behind =>
      exact .closed value _ shorter (behind.trans (step_tokens lexer mark))

theorem next_token_unique {tokens more : List Token} {first second : Token}
    (left : tokens ++ [first] <+: more) (right : tokens ++ [second] <+: more) : first = second := by
  have same : tokens ++ [first] = tokens ++ [second] :=
    (List.prefix_of_prefix_length_le left right (by simp)).eq_of_length (by simp)
  exact List.singleton_inj.mp (List.append_cancel_left same)

/-- A quoted text at the end of a statement gives a value that is not shorter only
where it is plain, and then it gives itself. -/
theorem quoted_end (textMark : mark = 39 ∨ mark = 34) {text value : Bytes}
    (whole : text.length ≤ value.length)
    (finished : (run { tokens := tokens, mode := .quoted mark [] } (text ++ [mark])).finish =
      some (tokens ++ [.quoted mark value])) : text = value ∧ Plain mark text := by
  have marked : Marked mark tokens text
      (run { tokens := tokens, mode := .quoted mark [] } (text ++ [mark])) :=
    marked_run textMark text
  generalize run { tokens := tokens, mode := .quoted mark [] } (text ++ [mark]) = lexer at *
  cases marked with
  | plain plain =>
      have same := List.append_cancel_left (Option.some.inj finished)
      cases same
      exact ⟨rfl, plain⟩
  | shorter other shorter =>
      have same := List.append_cancel_left (Option.some.inj finished)
      cases same
      omega
  | within other => cases finished
  | closed other lexer shorter behind =>
      have same := next_token_unique (behind.trans (finish_tokens finished)) List.prefix_rfl
      cases same
      omega

theorem run_quoted (textMark : mark = 39 ∨ mark = 34) {text : Bytes} (plain : Plain mark text) :
    run { tokens := tokens, mode := .quoted mark [] } (text ++ [mark]) =
      { tokens := tokens, mode := .closing mark text } := by
  rw [run_concat, run_plain textMark text [] plain, List.nil_append]
  simp only [step, if_true]

theorem quoted_end_iff (textMark : mark = 39 ∨ mark = 34) (text : Bytes) :
    (run { tokens := tokens, mode := .quoted mark [] } (text ++ [mark])).finish =
        some (tokens ++ [.quoted mark text]) ↔
      Plain mark text := by
  constructor
  · intro finished
    exact (quoted_end textMark (Nat.le_refl _) finished).2
  · intro plain
    rw [run_quoted textMark plain]
    rfl

end Quoted

section Numbers

def numberPart : Bytes → Option NumberPart
  | [] => none
  | char :: rest => (NumberPart.start char).bind fun part => rest.foldlM NumberPart.next part

/-- The text is a whole number, a decimal or one with an exponent. -/
def IsNumber (text : Bytes) : Prop := (numberPart text).any NumberPart.complete = true

instance (text : Bytes) : Decidable (IsNumber text) := inferInstanceAs (Decidable (_ = true))

theorem number_part_concat {text : Bytes} {part : NumberPart} {char : UInt8}
    (read : numberPart text = some part) : numberPart (text ++ [char]) = part.next char := by
  cases text with
  | nil => cases read
  | cons first rest =>
      simp only [numberPart, List.cons_append, List.foldlM_append] at read ⊢
      rcases Option.bind_eq_some_iff.mp read with ⟨started, start, later⟩
      rw [start, Option.bind_some, later]
      simp only [Option.bind_eq_bind, Option.bind_some, List.foldlM_cons, List.foldlM_nil]
      cases part.next char <;> rfl

def Sound (tokens : List Token) : Prop := ∀ text, .number text ∈ tokens → IsNumber text

structure NumbersSound (lexer : Lexer) : Prop where
  read : Sound lexer.tokens
  begun : ∀ part text, lexer.mode = .number part text → numberPart text = some part

theorem opens_number {tokens : List Token} {char : UInt8} {part : NumberPart}
    (start : NumberPart.start char = some part) :
    opens tokens char = { tokens := tokens, mode := .number part [char] } := by
  simp only [opens, start]

theorem opens_sound {tokens : List Token} {char : UInt8}
    (sound : Sound tokens) : NumbersSound (opens tokens char) := by
  unfold opens
  cases start : NumberPart.start char with
  | some part =>
      refine ⟨sound, ?_⟩
      intro other text same
      cases same
      simp only [numberPart, start, Option.bind_some, List.foldlM_nil]
      rfl
  | none =>
      change NumbersSound (opensOther tokens char)
      unfold opensOther
      split_ifs
      · exact ⟨sound, nofun⟩
      · exact ⟨sound, nofun⟩
      · exact ⟨sound, nofun⟩
      · exact ⟨sound, nofun⟩
      · exact ⟨sound, nofun⟩
      · exact ⟨sound, nofun⟩
      · refine ⟨?_, nofun⟩
        intro text member
        rcases List.mem_append.mp member with before | last
        · exact sound text before
        · cases List.mem_singleton.mp last

theorem sound_append {tokens more : List Token} (sound : Sound tokens)
    (others : Sound more) : Sound (tokens ++ more) := by
  intro text member
  rcases List.mem_append.mp member with before | behind
  · exact sound text before
  · exact others text behind

theorem close_sound {part : NumberPart} {text : Bytes} {closed : List Token}
    (begun : numberPart text = some part) (ended : part.close text = some closed) :
    Sound closed := by
  have complete : part.complete = true → IsNumber text := by
    intro complete
    unfold IsNumber
    rw [begun]
    exact complete
  intro other member
  cases part with
  | point =>
      cases ended
      cases List.mem_singleton.mp member
  | whole =>
      cases ended
      cases List.mem_singleton.mp member
      exact complete rfl
  | fraction =>
      cases ended
      cases List.mem_singleton.mp member
      exact complete rfl
  | exponent =>
      cases ended
      cases List.mem_singleton.mp member
      exact complete rfl
  | exponentMark fractional =>
      cases fractional
      · cases ended
        cases List.mem_singleton.mp member
      · cases ended
  | exponentSign fractional =>
      cases fractional
      · cases ended
        rcases List.mem_cons.mp member with word | sign
        · cases word
        · cases List.mem_singleton.mp sign
      · cases ended

theorem leave_number_sound {tokens : List Token} {part : NumberPart} {text : Bytes} {char : UInt8}
    (sound : Sound tokens) (begun : numberPart text = some part) :
    NumbersSound (leaveNumber tokens part text char) := by
  unfold leaveNumber
  split_ifs
  · exact ⟨sound, nofun⟩
  · cases ended : part.close text with
    | some closed => exact opens_sound (sound_append sound (close_sound begun ended))
    | none => exact ⟨sound, nofun⟩

theorem other_sound {tokens : List Token} {token : Token}
    (sound : Sound tokens) (other : ∀ text, token ≠ .number text) : Sound (tokens ++ [token]) :=
  sound_append sound fun text member => absurd (List.mem_singleton.mp member).symm (other text)

theorem step_sound {lexer : Lexer} {char : UInt8} (sound : NumbersSound lexer) :
    NumbersSound (step lexer char) := by
  rcases sound with ⟨read, begun⟩
  unfold step
  cases mode : lexer.mode with
  | blank => exact opens_sound read
  | number part text =>
      dsimp only
      cases next : part.next char with
      | some following =>
          refine ⟨read, ?_⟩
          intro other grown same
          cases same
          exact (number_part_concat (begun part text mode)).trans next
      | none => exact leave_number_sound read (begun part text mode)
  | word text =>
      dsimp only
      split_ifs
      · exact ⟨read, nofun⟩
      · exact opens_sound (other_sound read nofun)
  | closing mark value =>
      dsimp only
      split_ifs
      · exact ⟨read, nofun⟩
      · exact opens_sound (other_sound read nofun)
  | dash =>
      dsimp only
      split_ifs
      · exact ⟨read, nofun⟩
      · exact opens_sound (other_sound read nofun)
  | slash =>
      dsimp only
      split_ifs
      · exact ⟨read, nofun⟩
      · exact opens_sound (other_sound read nofun)
  | dashes =>
      dsimp only
      split_ifs
      · exact ⟨read, nofun⟩
      · exact ⟨other_sound read nofun, nofun⟩
      · exact opens_sound (sound_append read fun text member => by simp at member)
  | quoted mark value =>
      dsimp only
      split_ifs <;> exact ⟨read, nofun⟩
  | escaped mark value => exact ⟨read, nofun⟩
  | lineComment =>
      dsimp only
      split_ifs <;> exact ⟨read, by simp [mode]⟩
  | blockComment =>
      dsimp only
      split_ifs <;> exact ⟨read, by simp [mode]⟩
  | blockStar =>
      dsimp only
      split_ifs <;> exact ⟨read, by simp [mode]⟩
  | failed => exact ⟨read, by simp [mode]⟩

theorem run_sound {lexer : Lexer} (text : Bytes) (sound : NumbersSound lexer) :
    NumbersSound (run lexer text) := by
  induction text generalizing lexer with
  | nil => exact sound
  | cons char rest induction => exact induction (step_sound sound)

theorem finish_sound {lexer : Lexer} {tokens : List Token} (sound : NumbersSound lexer)
    (finished : lexer.finish = some tokens) :
    Sound tokens := by
  rcases sound with ⟨read, begun⟩
  unfold Lexer.finish at finished
  cases mode : lexer.mode with
  | number part text =>
      simp only [mode, Option.map_eq_some_iff] at finished
      rcases finished with ⟨closed, ended, same⟩
      rw [← same]
      exact sound_append read (close_sound (begun part text mode) ended)
  | blank =>
      simp only [mode, Option.some.injEq] at finished
      rw [← finished]
      exact read
  | dashes =>
      simp only [mode, Option.some.injEq] at finished
      rw [← finished]
      exact read
  | lineComment =>
      simp only [mode, Option.some.injEq] at finished
      rw [← finished]
      exact read
  | word text =>
      simp only [mode, Option.some.injEq] at finished
      rw [← finished]
      exact other_sound read nofun
  | closing mark value =>
      simp only [mode, Option.some.injEq] at finished
      rw [← finished]
      exact other_sound read nofun
  | dash =>
      simp only [mode, Option.some.injEq] at finished
      rw [← finished]
      exact other_sound read nofun
  | slash =>
      simp only [mode, Option.some.injEq] at finished
      rw [← finished]
      exact other_sound read nofun
  | quoted mark value =>
      simp only [mode] at finished
      cases finished
  | escaped mark value =>
      simp only [mode] at finished
      cases finished
  | blockComment =>
      simp only [mode] at finished
      cases finished
  | blockStar =>
      simp only [mode] at finished
      cases finished
  | failed =>
      simp only [mode] at finished
      cases finished

theorem run_number {tokens : List Token} (text : Bytes) :
    ∀ part, numberPart text = some part →
      run { tokens := tokens, mode := .blank } text =
        { tokens := tokens, mode := .number part text } := by
  induction text using List.reverseRecOn with
  | nil => nofun
  | append_singleton text char induction =>
      intro part read
      rw [run_concat]
      cases before : numberPart text with
      | some earlier =>
          rw [number_part_concat before] at read
          rw [induction earlier before]
          simp only [step, read]
      | none =>
          cases text with
          | nil =>
              simp only [numberPart, List.nil_append, List.foldlM_nil] at read
              rcases Option.bind_eq_some_iff.mp read with ⟨started, start, same⟩
              cases same
              exact opens_number start
          | cons first rest =>
              simp only [numberPart, List.cons_append, List.foldlM_append] at read before
              rcases Option.bind_eq_some_iff.mp read with ⟨started, start, later⟩
              rw [start, Option.bind_some] at before
              rw [before] at later
              cases later

theorem run_closing {tokens : List Token} {mark char : UInt8} {value rest : Bytes}
    (other : char ≠ mark) :
    run { tokens := tokens, mode := .closing mark value } (char :: rest) =
      run { tokens := tokens ++ [.quoted mark value], mode := .blank } (char :: rest) := by
  simp only [run, List.foldl_cons, step, if_neg other]

theorem run_dash {tokens : List Token} {char : UInt8} {rest : Bytes} (other : char ≠ 45) :
    run { tokens := tokens, mode := .dash } (char :: rest) =
      run { tokens := tokens ++ [.symbol 45], mode := .blank } (char :: rest) := by
  simp only [run, List.foldl_cons, step, if_neg other]

theorem number_part_digits {text : Bytes} (nonempty : text ≠ [])
    (digits : ∀ char ∈ text, isDigit char = true) : numberPart text = some .whole := by
  cases text with
  | nil => exact absurd rfl nonempty
  | cons first rest =>
      have start : NumberPart.start first = some .whole := if_pos (digits first List.mem_cons_self)
      have later : ∀ char ∈ rest, isDigit char = true :=
        fun char member => digits char (List.mem_cons_of_mem first member)
      rw [numberPart, start, Option.bind_some]
      clear digits nonempty start
      induction rest with
      | nil => rfl
      | cons char rest induction =>
          have next : NumberPart.next .whole char = some .whole :=
            if_pos (later char List.mem_cons_self)
          rw [List.foldlM_cons, next]
          exact induction fun other member => later other (List.mem_cons_of_mem char member)

/-- A text at the end of a statement is read as one number just when it is one. -/
theorem number_end_iff {tokens : List Token}
    (sound : Sound tokens) (text : Bytes) :
    (run { tokens := tokens, mode := .blank } text).finish = some (tokens ++ [.number text]) ↔
      IsNumber text := by
  constructor
  · intro finished
    have start : NumbersSound { tokens := tokens, mode := .blank } := ⟨sound, nofun⟩
    exact finish_sound (run_sound text start) finished text
      (List.mem_append_right _ (List.mem_singleton.mpr rfl))
  · intro number
    cases read : numberPart text with
    | none =>
        simp only [IsNumber, read] at number
        cases number
    | some part =>
        simp only [IsNumber, read] at number
        rw [run_number text part read]
        cases part with
        | whole => rfl
        | fraction => rfl
        | exponent => rfl
        | point => cases number
        | exponentMark fractional => cases number
        | exponentSign fractional => cases number

end Numbers

end SqlTokens
