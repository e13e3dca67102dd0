import HvDetect.While
import HvDetect.Interrupt.Counters
import HvDetect.Interrupt.Guard
import HvDetect.Benchmark.Median
import HvDetect.Benchmark.RunSingle
import HvDetect.Benchmark.Hpet
import HvDetect.Benchmark.Tlb
import HvDetect.Probes.Nx
import HvDetect.Benchmark.MpClock
import HvDetect.Probes.Battery
import HvDetect.Hwid.Nvme
import HvDetect.Hwid.Ahci
import HvDetect.Probes.RevertList
import HvDetect.Hwid.Bios
import HvDetect.Hwid.Smbios
import HvDetect.Hwid.Collect
import HvDetect.Hwid.Registry
import HvDetect.Environment.Unload
import HvDetect.Environment.Validate
import HvDetect.Memory.Map
import HvDetect.Hwid.DiskId
import HvDetect.Util.Upause
import HvDetect.Probes.Checks
import HvDetect.Probes.Perf
