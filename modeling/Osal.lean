import Osal.Basic
import Osal.ObjectId
import Osal.CString
import Osal.State
import Osal.IdMap
import Osal.LockSpec
import Osal.IdMapSpec
import Osal.ObjectCall
import Osal.BinSem
import Osal.Queue
import Osal.Common
import Osal.TimeBase.Api
import Osal.TimeBase.Callback
import Osal.TimeBase.Ticks
import Osal.TimeBase.WaitLoop
import Osal.TimeBase.Ring
import Osal.VxWorks.Tasks
import Osal.VxWorks.BinSem
import Osal.VxWorks.TaskStack
import Osal.FileSys.Api
import Osal.FileSys.Query
import Osal.FileSys.Events
import Osal.FileSys.Invariant
import Osal.FileSys.Reachable
import Osal.FileSys.Consistency
import Osal.FileSys.Unmount
import Osal.FileSys.Translate
import Osal.Locks.Resources
import Osal.Locks.FileSys
import Osal.Locks.EntryPoints
import Osal.FileSys.Registered
import Osal.TimeBase.Thread
import Osal.Globals
import Osal.VxWorks.Handles
