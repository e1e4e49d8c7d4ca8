import Pjsua.Basic
import Pjsua.Engine
import Pjsua.Registry
import Pjsua.Wrappers
import Pjsua.Dispatch
import Pjsua.Errors
import Pjsua.Codec
import Pjsua.Config
import Pjsua.LibConfig
import Pjsua.Lifecycle
import Pjsua.System
import Pjsua.Worker
import Pjsua.Session
