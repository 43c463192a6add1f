import BasicTokens.Lexer

/-!
# Recorder/Session — a recorder in use

The requests that a recorder answers, one after the other: diagnostics delivered to it directly,
through a builder or by a run over a source, and its contents listed, taken away or forgotten.
-/

namespace BasicTokens

namespace Recorder

variable [Text.CharacterData]

/-- A request to a recorder. -/
inductive Request where
  /-- Accept a diagnostic. -/
  | deliver (d : Diagnostic)
  /-- Build an error of some parts, and accept it. -/
  | buildError (span : Span) (message : Text) (parts : List Diagnostic.Part)
  /-- Build a warning of some parts, and accept it. -/
  | buildWarning (span : Span) (message : Text) (parts : List Diagnostic.Part)
  /-- Tokenize a source, reporting to the recorder. -/
  | tokenize (settings : Settings) (source : Text)
  /-- Show what is recorded. -/
  | list
  /-- Hand over what is recorded. -/
  | take
  /-- Forget what is recorded. -/
  | clear

/-- The answer to a request. -/
inductive Reply where
  | done
  | tokens (tokens : List Token)
  | diagnostics (recorded : List Diagnostic)
  | refused (refusal : Refusal)

/-- The answer to a delivery that is accepted or refused, and the recorder after it. -/
def replyTo (r : Recorder) : Except Refusal Recorder → Reply × Recorder
  | .ok r => (.done, r)
  | .error refusal => (.refused refusal, r)

/-- The answer to a request, and the recorder after it. -/
def answer (r : Recorder) : Request → Reply × Recorder
  | .deliver d => r.replyTo (r.receive d)
  | .buildError span message parts =>
    r.replyTo (((r.buildError span message).addAll parts).emit .recorder r)
  | .buildWarning span message parts =>
    r.replyTo (((r.buildWarning span message).addAll parts).emit .recorder r)
  | .tokenize settings source =>
    let pulled := BasicTokens.tokenize .recorder settings source r
    match pulled.result with
    | .ok tokens => (.tokens tokens, pulled.state)
    | .error refusal => (.refused refusal, pulled.state)
  | .list => (.diagnostics r.recorded, r)
  | .take => (.diagnostics r.recorded, r.clear)
  | .clear => (.done, r.clear)

/-- The answers to requests made one after the other, and the recorder after the last. -/
def answerAll (r : Recorder) : List Request → List Reply × Recorder
  | [] => ([], r)
  | request :: requests =>
    let (reply, r) := r.answer request
    let (replies, r) := r.answerAll requests
    (reply :: replies, r)

end Recorder

end BasicTokens
