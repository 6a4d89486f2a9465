namespace GpuTelemetry.Native

inductive Symbol where
  | init | shutdown | startEmbedded | stopEmbedded | connect | disconnect | errorString
  | valuesSince | latestValues | policySet | policyRegister | policyUnregister
  deriving DecidableEq, Repr

namespace Symbol

def all : List Symbol :=
  [init, shutdown, startEmbedded, stopEmbedded, connect, disconnect, errorString, valuesSince,
    latestValues, policySet, policyRegister, policyUnregister]

theorem mem_all (s : Symbol) : s ∈ all := by cases s <;> decide

def name : Symbol → String
  | init => "dcgmInit"
  | shutdown => "dcgmShutdown"
  | startEmbedded => "dcgmStartEmbedded"
  | stopEmbedded => "dcgmStopEmbedded"
  | connect => "dcgmConnect"
  | disconnect => "dcgmDisconnect"
  | errorString => "errorString"
  | valuesSince => "dcgmGetValuesSince_v2"
  | latestValues => "dcgmEntitiesGetLatestValues"
  | policySet => "dcgmPolicySet"
  | policyRegister => "dcgmPolicyRegister_v2"
  | policyUnregister => "dcgmPolicyUnregister"

def takesHandle : Symbol → Bool
  | init | shutdown | startEmbedded | connect | errorString => false
  | _ => true

end Symbol

inductive Arg where
  | int (n : Int)
  | text (s : String)
  deriving DecidableEq, Repr

structure Call where
  symbol : Symbol
  args : List Arg := []
  deriving DecidableEq, Repr

end GpuTelemetry.Native
