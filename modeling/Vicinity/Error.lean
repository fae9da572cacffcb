/-! # Errors

Each area has one type of errors, with a constructor for every cause and one function that words
it. A broker passes on the errors of its codec and of its settings in their own words.
-/

namespace Vicinity

/-- What is wrong with a setting. -/
inductive ConfigError where
  | unknownBrokerKind (name : String)
  | unknownChannelKind (name : String)
  | invalidParameter (name value reason : String)
  | missingValue (name : String)
deriving DecidableEq, Repr, Inhabited

def ConfigError.message : ConfigError → String
  | unknownBrokerKind name => "Unknown broker type: " ++ name
  | unknownChannelKind name => "Unknown channel type: " ++ name
  | invalidParameter name value reason =>
    "Invalid value '" ++ value ++ "' for parameter '" ++ name ++ "': " ++ reason
  | missingValue name => "Missing required configuration value: " ++ name

/-- Why a message cannot be turned into a frame, or a frame into a message. -/
inductive CodecError where
  | unreadable
  | malformed (reason : String)
deriving DecidableEq, Repr, Inhabited

def CodecError.message : CodecError → String
  | unreadable => "JSON codec error"
  | malformed reason => "Malformed frame: " ++ reason

/-- What can go wrong between a broker and its transport. -/
inductive BrokerError where
  | connection (uri reason : String)
  | unsupportedScheme (uri : String)
  | transport (reason : String)
  | closed
  | codec (error : CodecError)
  | config (error : ConfigError)
deriving DecidableEq, Repr, Inhabited

def BrokerError.message : BrokerError → String
  | connection uri reason => "Failed to connect to " ++ uri ++ ": " ++ reason
  | unsupportedScheme uri => "Unsupported transport scheme in URI: " ++ uri
  | transport reason => "Transport error: " ++ reason
  | closed => "Broker is closed"
  | codec error => "Codec error: " ++ error.message
  | config error => error.message

/-- Why the worker pool refuses a job. -/
inductive ExecutorError where
  | shutDown
deriving DecidableEq, Repr, Inhabited

def ExecutorError.message : ExecutorError → String
  | shutDown => "executor has been shut down"

end Vicinity
