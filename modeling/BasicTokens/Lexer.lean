import BasicTokens.Lexeme.Scanner
import BasicTokens.Sink
import BasicTokens.Token.Classify

/-!
# Lexer — tokens pulled one at a time, problems reported on the way

A lexer classifies the lexemes of a source as they are asked for.  What is wrong with a token is
reported to the sink before the token is handed out; if the sink refuses, the lexeme is used up and
counted all the same, and its token is lost.
-/

namespace BasicTokens

/-- What is left of a source, and how many diagnostics were reported so far. -/
structure Lexer where
  scanner : Scanner
  diagnosticCount : Nat := 0
deriving DecidableEq

/-- What came of a request: an answer or a refusal, the lexer and the state of the sink after it. -/
structure Pulled (σ α : Type) where
  result : Except Refusal α
  lexer : Lexer
  state : σ

namespace Pulled

/-- The same request with another answer. -/
def map {σ α β : Type} (f : α → β) (p : Pulled σ α) : Pulled σ β :=
  { p with result := p.result.map f }

end Pulled

namespace Lexer

variable [Text.CharacterData] {σ : Type}

/-- The lexer before the first character of a source. -/
def ofSource (settings : Settings) (source : Text) : Lexer := ⟨.ofSource settings source, 0⟩

/-- The next token; none at the end of the source. -/
def next (sink : Sink σ) (lexer : Lexer) (state : σ) : Pulled σ (Option Token) :=
  match lexer.scanner.next? with
  | none => ⟨.ok none, lexer, state⟩
  | some (lexeme, scanner) =>
    let token := Token.classify lexer.scanner.settings lexeme.text lexeme.offset
    match token.problem? with
    | none => ⟨.ok (some token), { lexer with scanner }, sink.trace token lexeme.span state⟩
    | some error =>
      let lexer : Lexer := ⟨scanner, lexer.diagnosticCount + 1⟩
      match sink.receive (error.report lexeme.span) state with
      | .error refusal => ⟨.error refusal, lexer, state⟩
      | .ok state => ⟨.ok (some token), lexer, sink.trace token lexeme.span state⟩

/-- Up to `n` tokens.  A refusal loses the tokens of the same request before it. -/
def take (sink : Sink σ) : Nat → Lexer → σ → Pulled σ (List Token)
  | 0, lexer, state => ⟨.ok [], lexer, state⟩
  | n + 1, lexer, state =>
    match lexer.next sink state with
    | ⟨.error refusal, lexer, state⟩ => ⟨.error refusal, lexer, state⟩
    | ⟨.ok none, lexer, state⟩ => ⟨.ok [], lexer, state⟩
    | ⟨.ok (some token), lexer, state⟩ => (take sink n lexer state).map (token :: ·)

/-- All tokens that are left; there are at most as many as characters. -/
def rest (sink : Sink σ) (lexer : Lexer) (state : σ) : Pulled σ (List Token) :=
  lexer.take sink lexer.scanner.cursor.rest.length state

/-- A request to a lexer. -/
inductive Pull where
  /-- The next token. -/
  | next
  /-- Up to so many tokens. -/
  | take (n : Nat)
  /-- All that are left. -/
  | rest

/-- The tokens that answer a request. -/
def pull (sink : Sink σ) (request : Pull) (lexer : Lexer) (state : σ) : Pulled σ (List Token) :=
  match request with
  | .next => (lexer.next sink state).map Option.toList
  | .take n => lexer.take sink n state
  | .rest => lexer.rest sink state

/-- What comes of requests made one after the other; a refusal does not end the lexer. -/
def pullAll (sink : Sink σ) : List Pull → Lexer → σ → List (Pulled σ (List Token))
  | [], _, _ => []
  | request :: requests, lexer, state =>
    let pulled := lexer.pull sink request state
    pulled :: pulled.lexer.pullAll sink requests pulled.state

end Lexer

/-! ## Whole sources -/

/-- All tokens of a source, with the totals told to the sink at the end. -/
def tokenize [Text.CharacterData] {σ : Type} (sink : Sink σ) (settings : Settings) (source : Text)
    (state : σ) : Pulled σ (List Token) :=
  let pulled := (Lexer.ofSource settings source).rest sink state
  match pulled.result with
  | .ok tokens =>
    { pulled with
      state := sink.finish source.length tokens.length pulled.lexer.diagnosticCount pulled.state }
  | .error _ => pulled

/-- All tokens of a source and all diagnostics reported for it. -/
def tokenizeCollecting [Text.CharacterData] (settings : Settings) (source : Text) :
    List Token × List Diagnostic :=
  let pulled := tokenize .recorder settings source {}
  (pulled.result.toOption.getD [], pulled.state.recorded)

end BasicTokens
