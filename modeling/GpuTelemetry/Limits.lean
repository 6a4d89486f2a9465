namespace GpuTelemetry.Limits

def entitiesPerGroup : Nat := 64

def fieldsPerGroup : Nat := 128

def samplesPerField : Nat := 16

def historyValues : Nat := entitiesPerGroup * fieldsPerGroup * samplesPerField

def snapshotValues : Nat := entitiesPerGroup * fieldsPerGroup

def stagingStart : Nat := 256

def stagingGrowth : Nat := 256

def reserveSlots : Nat := 1024

def reserveFit : Nat := 4

def reserveBuffers : Nat := 32

def reserveBytes : Nat := 16 * 1024 * 1024

def slotCapacity : Nat := 1

def outputCapacity : Nat := 32

def maxWord : Nat := 0xffffffffffffffff

def maxAllocation : Nat := 0x7fffffffffffffff

def saturate (n : Nat) : Nat := min n maxWord

end GpuTelemetry.Limits
