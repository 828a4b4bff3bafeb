import PixelApplet.Command.Basic
import PixelApplet.Command.Lint

/-!
# Requests

What the arguments of the program ask for.  The first argument names a command; behind it come
options, which may be shortened to one letter, and the command's own words in any mixture.  Behind
`--` there are no options any more.
-/

namespace PixelApplet

/-- What the program is asked to do. -/
inductive Request where
  | onApplet (path : String) (command : AppletCommand)
  | lint (options : LintOptions) (paths : List String)
  deriving DecidableEq

/-- The options given to a command, with their values, and its other words. -/
structure CommandWords where
  options : List (String × String)
  words : List String

namespace CommandWords

/-- The short options and what they stand for. -/
def shortened : List (String × String) :=
  [("-c", "--config"), ("-r", "--recursive"), ("-f", "--fix"), ("-v", "--verbose"),
    ("-o", "--output")]

/-- The options that take the next argument as their value. -/
def valued : List String :=
  ["--config", "--output"]

/-- Whether a word is an option. -/
def isOption (word : String) : Bool :=
  word.toList.head? = some '-' && word ≠ "-"

/-- Takes arguments apart, if each is a word or an option that is known; or else gives the offending
argument. -/
def ofArguments (known : List String) : List String → Except String CommandWords
  | [] => .ok ⟨[], []⟩
  | "--" :: rest => .ok ⟨[], rest⟩
  | [word] =>
    let option := (shortened.lookup word).getD word
    if !isOption word then .ok ⟨[], [word]⟩
    else if known.contains option && !valued.contains option then .ok ⟨[(option, "")], []⟩
    else .error word
  | word :: next :: rest => do
    let option := (shortened.lookup word).getD word
    if !isOption word then
      let behind ← ofArguments known (next :: rest)
      return ⟨behind.options, word :: behind.words⟩
    else if !known.contains option then throw word
    else if valued.contains option then
      let behind ← ofArguments known rest
      return ⟨(option, next) :: behind.options, behind.words⟩
    else
      let behind ← ofArguments known (next :: rest)
      return ⟨(option, "") :: behind.options, behind.words⟩

/-- Whether an option was given. -/
def has (words : CommandWords) (option : String) : Bool :=
  (words.options.lookup option).isSome

/-- The values that were given to an option, in order. -/
def values (words : CommandWords) (option : String) : List String :=
  (words.options.filter fun entry => entry.1 = option).map Prod.snd

end CommandWords

namespace Request

/-- The options that a command knows. -/
def knownOptions : (command : String) → List String
  | "run" => ["--config", "--json"]
  | "lint" => ["--recursive", "--fix", "--verbose", "--output"]
  | _ => []

/-- How the program is called. -/
def usage : String :=
  "usage: run PATH [--config KEY=VALUE]... [--json]\n"
    ++ "       schema PATH\n"
    ++ "       call PATH HANDLER PARAM\n"
    ++ "       test PATH\n"
    ++ "       bundle PATH\n"
    ++ "       lint [--recursive] [--fix] [--verbose] [--output FORMAT] PATHSPEC..."

/-- The request that a command makes with its words. -/
def ofWords? (command : String) (given : CommandWords) : Option Request :=
  match command, given.words with
  | "run", [path] => some (.onApplet path (.run (given.values "--config") (given.has "--json")))
  | "schema", [path] => some (.onApplet path .schema)
  | "call", [path, handler, parameter] => some (.onApplet path (.call handler parameter))
  | "test", [path] => some (.onApplet path .test)
  | "bundle", [path] => some (.onApplet path .bundle)
  | "lint", path :: paths =>
    some (.lint
      ⟨given.has "--recursive", given.has "--fix", given.has "--verbose",
        (given.values "--output").getLast?⟩
      (path :: paths))
  | _, _ => none

/-- The request that arguments make, or what is wrong with them. -/
def ofArguments : List String → Except String Request
  | [] => .error usage
  | command :: arguments =>
    match CommandWords.ofArguments (knownOptions command) arguments with
    | .error argument => .error s!"unexpected argument '{argument}'\n\n{usage}"
    | .ok given =>
      match ofWords? command given with
      | some request => .ok request
      | none => .error usage

/-- The paths of the disk that a request names. -/
def paths : Request → List String
  | onApplet path _ => [path]
  | lint _ paths => paths

end Request

end PixelApplet
