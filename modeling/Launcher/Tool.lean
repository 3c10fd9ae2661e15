import Launcher.Digest.Md5
import Launcher.Digest.Sha256
import Launcher.Json.Reader
import Launcher.Text.Base64
import Launcher.Text.Blank
import Launcher.Text.Percent

namespace Launcher

/-!
# Text tools

* `Tool` — what can be done to the rest of a query that begins with the tool's word.
* `Tool.Call` — a tool and its argument; `Tool.Call.parse?` reads it off a query.
* `Tool.Call.run` — the text that the tool makes of its argument.
-/

/-- A tool. -/
inductive Tool where
  | base64Encode
  | base64Decode
  | md5
  | sha256
  | url
  | json
  | webSearch
  | shell
deriving Repr, DecidableEq

namespace Tool

/-- How the tool is shown. -/
def label : Tool → String
  | .base64Encode => "Base64 encode"
  | .base64Decode => "Base64 decode"
  | .md5 => "MD5"
  | .sha256 => "SHA-256"
  | .url => "URL encode/decode"
  | .json => "JSON pretty-print"
  | .webSearch => "Web search"
  | .shell => "Shell command"

/-- How a fault names the tool. -/
def name : Tool → String
  | .base64Encode => "Base64Encode"
  | .base64Decode => "Base64Decode"
  | .md5 => "Md5"
  | .sha256 => "Sha256"
  | .url => "Url"
  | .json => "Json"
  | .webSearch => "WebSearch"
  | .shell => "Shell"

/-- The tools that a word calls, with their words. A shell command is called by a `>` instead. -/
def words : List (String × Tool) :=
  [("base64", .base64Encode), ("base64d", .base64Decode), ("md5", .md5), ("sha256", .sha256),
   ("url", .url), ("json", .json), ("g", .webSearch)]

/-- The tool that a word calls. -/
def ofWord? (word : List Char) : Option Tool :=
  (words.find? fun (w, _) => w.toList == word).map (·.2)

/-! ### Calls -/

/-- A tool and its argument. -/
structure Call where
  tool : Tool
  argument : String
deriving Repr, DecidableEq

/-- A call with an argument that is trimmed and must not be empty. -/
def call? (tool : Tool) (argument : List Char) : Option Call :=
  let trimmed := Text.trim argument
  if trimmed.isEmpty then none else some ⟨tool, String.ofList trimmed⟩

/-- The call that a query makes: a tool's word, a blank and an argument, or a `>` and a shell
command. -/
def Call.parse? (query : List Char) : Option Call :=
  match Text.trimStart query with
  | '>' :: rest => call? .shell rest
  | body => do
    let (word, rest) ← Text.splitAtBlank? body
    call? (← ofWord? word) rest

/-! ### Results -/

/-- Why a tool has no result. -/
inductive Fault where
  | invalidBase64
  | notUtf8
  | invalidJson
  | notATextTool (tool : Tool)
deriving Repr, DecidableEq

/-- The wording of a fault. -/
def Fault.message : Fault → String
  | .invalidBase64 => "invalid base64 input"
  | .notUtf8 => "decoded bytes are not UTF-8"
  | .invalidJson => "invalid JSON"
  | .notATextTool tool =>
    s!"{tool.name} is resolved by the action registry, not evaluated as text"

/-- A text with its percent escapes replaced if it has some, and percent-encoded otherwise. -/
def toggleUrl (s : List Char) : List Char :=
  if Text.Percent.hasEscape s then Text.Percent.decode s else Text.Percent.encode false s

/-- The bytes of a text in base64 as a text. -/
def decodeBase64 (s : List Char) : Except Fault (List Char) :=
  match Text.Base64.decode? (Text.trim s) with
  | none => .error .invalidBase64
  | some bytes =>
    match Text.Utf8.decode? bytes with
    | none => .error .notUtf8
    | some text => .ok text

/-- The text that a tool makes of its argument. -/
def Call.run (call : Call) : Except Fault String :=
  let s := call.argument.toList
  match call.tool with
  | .base64Encode => .ok (String.ofList (Text.Base64.encode (Text.Utf8.encode s)))
  | .base64Decode => (decodeBase64 s).map String.ofList
  | .md5 => .ok (String.ofList (Digest.hex (Digest.Md5.digest (Text.Utf8.encode s))))
  | .sha256 => .ok (String.ofList (Digest.hex (Digest.Sha256.digest (Text.Utf8.encode s))))
  | .url => .ok (String.ofList (toggleUrl s))
  | .json =>
    match Json.value? s with
    | some value => .ok value.pretty
    | none => .error .invalidJson
  | tool => .error (.notATextTool tool)

end Tool

end Launcher
