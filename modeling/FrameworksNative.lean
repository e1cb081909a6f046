import FrameworksNative.Buffers
import FrameworksNative.Convert
import FrameworksNative.Consumer
import FrameworksNative.Steps
import FrameworksNative.Invariants
import FrameworksNative.Unlock
import FrameworksNative.Bounds
import FrameworksNative.Descriptor
import FrameworksNative.Pool
import FrameworksNative.Queue
import FrameworksNative.Lifecycle
import FrameworksNative.Drain
