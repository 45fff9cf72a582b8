import ScriptRoster.CommandLine.Action
import ScriptRoster.Session.State
import ScriptRoster.Settings.File

/-!
# Troubles

Why the program does not do what it is asked to. A trouble is told as a chain: what could not be
done, followed by the causes behind it.
-/

namespace ScriptRoster.CommandLine

open Files Cache

/-- Why the program fails. -/
inductive Trouble where
  | arguments (error : ArgumentError)
  | settings (error : SettingsError)
  /-- The folder for cached names is not to be had. -/
  | folder (error : StoreError)
  /-- The session failed over a script. -/
  | session (script : String) (error : SessionError)
  | location (error : ResolveError)
  | store (error : StoreError)
  | call (function : String) (failure : Invocation.Failure)
  /-- There is no terminal to show a menu on. -/
  | noTerminal
  /-- A stop was asked for. -/
  | interrupted

/-- The links of a chain. -/
abbrev Chain := List (Marked Tint)

/-- A link that is not set off. -/
def link (text : String) : Marked Tint := [(.none, text)]

/-- The chain of a directory that is not to be had. -/
def directoryChain (error : DirectoryError) : Chain :=
  match error with
  | .creation _ cause => [link error.message, link cause.message]

/-- The chain of settings that are not to be had. -/
def settingsChain (error : SettingsError) : Chain :=
  match error with
  | .directory cause => directoryChain cause
  | .io _ cause => [link error.message, link cause.message]
  | .parse _ source fault => [link error.message, link (fault.message source)]

/-- The chain of a failure of the store. -/
def storeChain (error : StoreError) : Chain :=
  match error with
  | .io cause => [link error.message, link cause.message]
  | .directory cause => link error.message :: directoryChain cause
  | .unreadable source fault => [link error.message, link (fault.message source)]
  | .persist cause => [link error.message, link cause.message]
  | .temporary .. => [link error.message]
  | .task _ => [link error.message]

/-- The chain of a script that is not located. -/
def locationChain (error : ResolveError) : Chain :=
  match error with
  | .io _ cause => [link error.message, link cause.message]
  | _ => [link error.message]

/-- The link that tells how to go on after a script could not be read. -/
def reloadLink (script : String) : Marked Tint :=
  link ("Could not read the functions of '" ++ script
    ++ "'. Fix the script, then run 'psfunc reload'")

/-- The chain of a failure of the session. -/
def sessionChain (script : String) : SessionError → Chain
  | .path error => locationChain error
  | .cache error => storeChain error
  | .extraction error => [reloadLink script, link error.message]
  | error => [link error.message]

/-- The chain of wrong arguments. -/
def argumentChain : ArgumentError → Chain
  | .superfluous argument => [link ("'reload' takes no arguments (got '" ++ argument ++ "').")]
  | .detour (.help form) => [link form.help.plain]
  | .detour (.noCommand form) => [link form.help.plain]
  | .detour (.wrong complaint) => [link complaint.text.plain]

namespace Trouble

/-- A trouble as a chain. -/
def chain : Trouble → Chain
  | .arguments error => argumentChain error
  | .settings error => settingsChain error
  | .folder error => link "Could not open the cache directory" :: storeChain error
  | .session script error => sessionChain script error
  | .location error => locationChain error
  | .store error => storeChain error
  | .call function failure =>
      [[(.none, "'"), (.cyan, function), (.none, "' failed: " ++ failure.message)]]
  | .noTerminal => [link "IO error: not a terminal"]
  | .interrupted => [link Invocation.Failure.cancelled.message]

/-- What is said of a trouble. An interruption is told by its code alone. -/
def text : Trouble → Marked Tint
  | .interrupted => []
  | trouble =>
      [(.none, "\n"), (.alarm, "Error"), (.none, ": ")]
        ++ [(Tint.none, ": ")].intercalate trouble.chain ++ [(.none, "\n")]

/-- The code that the program ends with. -/
def code : Trouble → Nat
  | .interrupted => 130
  | _ => 1

end Trouble

end ScriptRoster.CommandLine
