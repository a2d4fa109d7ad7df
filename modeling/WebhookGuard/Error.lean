import WebhookGuard.Time.Duration

/-
  Errors. A store that cannot decide whether a nonce is fresh says why; that is never the same as
  a replay. Settings that cannot work stop the start: each error names its cause, and its wording
  is given here once.
-/
namespace WebhookGuard

/-- Why a store did not decide. -/
inductive StoreError where
  /-- The store answered that it cannot. -/
  | unavailable (cause : String)
  /-- The store had not answered when the time for it was up. -/
  | timedOut (limit : Duration)
deriving DecidableEq, Repr

/-- The wording of a store error. -/
def StoreError.message : StoreError → String
  | unavailable cause => "nonce store unavailable: " ++ cause
  | timedOut limit => "nonce store did not answer within " ++ limit.text

/-- The durations that settings give. -/
inductive DurationSetting where
  | allowedClockSkew
  | maxMessageAge
  | storeTimeout
  | sweepInterval
deriving DecidableEq, Repr

/-- The name of a duration in messages. -/
def DurationSetting.name : DurationSetting → String
  | allowedClockSkew => "allowed_clock_skew"
  | maxMessageAge => "max_message_age"
  | storeTimeout => "store_timeout"
  | sweepInterval => "sweep_interval"

/-- What is wrong with a duration. -/
inductive DurationFault where
  /-- It is no time at all. -/
  | zero
  /-- It is too long to compute with. -/
  | tooLong
deriving DecidableEq, Repr

/-- The wording of what is wrong with a duration. -/
def DurationFault.message : DurationFault → String
  | zero => "must be greater than zero"
  | tooLong => "Source duration value is out of range for the target type"

/-- What is wrong with a connection address. -/
inductive AddressFault where
  | malformed
  | noHost
  | encrypted
  | database
  | userName
  | password
  | protocol (version : String)
  | noPath
deriving DecidableEq, Repr

/-- The wording of what is wrong with a connection address. -/
def AddressFault.message : AddressFault → String
  | malformed => "Redis URL did not parse- InvalidClientConfig"
  | noHost => "Missing hostname- InvalidClientConfig"
  | encrypted => "can't connect with TLS, the feature is not enabled- InvalidClientConfig"
  | database => "Invalid database number- InvalidClientConfig"
  | userName => "Username is not valid UTF-8 string- InvalidClientConfig"
  | password => "Password is not valid UTF-8 string- InvalidClientConfig"
  | protocol version => "Invalid protocol version - InvalidClientConfig: " ++ version
  | noPath => "Missing path- InvalidClientConfig"

/-- Why a path leads to no place. -/
inductive PathFault where
  | missing
  | notDirectory
  | nameTooLong
deriving DecidableEq, Repr

/-- The wording of why a path leads to no place. -/
def PathFault.message : PathFault → String
  | missing => "No such file or directory (os error 2)"
  | notDirectory => "Not a directory (os error 20)"
  | nameTooLong => "File name too long (os error 36)"

/-- Why a table cannot be used. -/
inductive TableFault where
  /-- The location has a zero byte at this position. -/
  | zeroByte (position : Nat)
  /-- The location is on another host. -/
  | authority (name : String)
  /-- The location asks for a mode of this kind that there is not. -/
  | noSuchMode (kind value : String)
  /-- The location asks for more than it has allowed before. -/
  | modeNotAllowed (value : String)
  /-- The location asks for a driver that there is not. -/
  | noSuchDriver (name : String)
  /-- There is no file at the location, and none can be made. -/
  | notOpened (location : String)
  /-- There is no place for the journal of the file. -/
  | noJournal
  | notReadable
  | notWritable
  /-- The file holds something else. -/
  | notTable
deriving DecidableEq, Repr

/-- The wording of why a table cannot be used. -/
def TableFault.message : TableFault → String
  | zeroByte position => "nul byte found in provided data at position: " ++ toString position
  | authority name => "invalid uri authority: " ++ name
  | noSuchMode kind value => "no such " ++ kind ++ " mode: " ++ value
  | modeNotAllowed value => "access mode not allowed: " ++ value
  | noSuchDriver name => "no such vfs: " ++ name
  | notOpened location => "unable to open database file: " ++ location
  | noJournal => "unable to open database file"
  | notReadable => "disk I/O error"
  | notWritable => "attempt to write a readonly database"
  | notTable => "file is not a database"

/-- Why a store could not be set up. -/
inductive BackendFault where
  /-- The address of the remote store cannot be used. -/
  | address (fault : AddressFault)
  /-- The table at this location cannot be used. -/
  | table (location : String) (fault : TableFault)
deriving DecidableEq, Repr

/-- The wording of why a store could not be set up. -/
def BackendFault.message : BackendFault → String
  | address fault => "invalid redis url: " ++ fault.message
  | table location fault => "sqlite at " ++ location ++ ": " ++ fault.message

/-- Why a verifier or a store could not be built. -/
inductive ConfigError where
  | missingSecret
  | invalidDuration (setting : DurationSetting) (fault : DurationFault)
  | missingRequired (setting : String)
  | invalidValue (name value : String)
  | backend (fault : BackendFault)
deriving DecidableEq, Repr

/-- The wording of a configuration error. -/
def ConfigError.message : ConfigError → String
  | missingSecret => "shared secret must be set and non-blank"
  | invalidDuration setting fault =>
    "invalid duration for " ++ setting.name ++ ": " ++ fault.message
  | missingRequired setting => "missing required setting: " ++ setting
  | invalidValue name value => "invalid value for " ++ name ++ ": " ++ value
  | backend fault => "nonce store backend error: " ++ fault.message

end WebhookGuard
