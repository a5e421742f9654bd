import CallStream.Text.CharClass.Basic

/-!
# Settings of a session

What can be switched on for a session, and the environment variable that switches on call logging.
-/

namespace CallStream

/-- The settings of a session. -/
structure SessionConfig where
  /-- Every call is logged with its parameters. -/
  logCalls : Bool := false
  /-- The first buffer starts with the handles of a snapshot. -/
  forSnapshotLoad : Bool := false
deriving DecidableEq, Repr

namespace SessionConfig

/-- The environment variable that switches call logging on. -/
def logCallsVariable : String := "VKSTREAM_LOG_CALLS"

/-- The words that switch something on, whatever the case of their ASCII letters. -/
def affirmations : List String := ["1", "true", "yes", "on"]

/-- Whether a setting switches something on. White space around it does not count. -/
def isAffirmative (setting : String) : Bool :=
  let word := (Text.trimBlanks setting.toList).map Char.toLower
  affirmations.any fun affirmation => affirmation.toList == word

/-- The settings for a value of the environment variable, or for its absence. -/
def ofVariable (setting : Option String) : SessionConfig :=
  { logCalls := setting.any isAffirmative }

end SessionConfig

end CallStream
