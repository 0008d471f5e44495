import AmusementPark.Library.Machine
import AmusementPark.Library.Population
import AmusementPark.Library.UndoSemaphore
import AmusementPark.Library.WakeupCounter
import AmusementPark.Library.AssocTotal
import AmusementPark.Ipc.SemaphoreLock
import AmusementPark.Ipc.MutualExclusion
import AmusementPark.Messages
import AmusementPark.Worker.ReplyExchange
import AmusementPark.Cashier.CashierProc
import AmusementPark.Worker.Mailbox
import AmusementPark.Cashier.Run
import AmusementPark.Cashier.Bookkeeping
import AmusementPark.Restaurant.RestaurantProc
import AmusementPark.Restaurant.Run
import AmusementPark.Restaurant.Rounds
import AmusementPark.Restaurant.Billing
import AmusementPark.Attraction.AttractionProc
import AmusementPark.Attraction.Run
import AmusementPark.WakeUps.CashierAndRestaurant
import AmusementPark.WakeUps.Attraction
import AmusementPark.Channel.ReplyChannel
import AmusementPark.Channel.Direction
import AmusementPark.Channel.ParkEntry
import AmusementPark.Client.ClientProc
import AmusementPark.Client.ParkBill
import AmusementPark.Channel.StaleRequests
import AmusementPark.Channel.EntryAgreement
import AmusementPark.Cashier.QueueDiscipline
import AmusementPark.Cashier.Stopping
import AmusementPark.Worker.LeaveSemaphore
import AmusementPark.Worker.Rounds
import AmusementPark.Worker.RoundsProgram
import AmusementPark.Attraction.HandlerCalls
import AmusementPark.Restaurant.HandlerCalls
import AmusementPark.Rounds.Closing
import AmusementPark.Worker.HeldHandlers
import AmusementPark.Rounds.Shutdown
import AmusementPark.Rounds.ReleaseTokens
import AmusementPark.Park.SharedMemory
import AmusementPark.Park.SlotAllocation
import AmusementPark.Main.MainProc
import AmusementPark.Main.SelfDeadlock
import AmusementPark.Main.ShutdownSignals
import AmusementPark.Rounds.WorkerTokens
import AmusementPark.Cashier.Overtime
import AmusementPark.Ipc.SemSignal
import AmusementPark.Main.Children
import AmusementPark.Main.ClientGeneration
import AmusementPark.Main.Pause
import AmusementPark.Attraction.RideTimes
import AmusementPark.Attraction.NullEntries
import AmusementPark.Client.ClientRun
import AmusementPark.Client.Queues
import AmusementPark.Client.Evacuation
import AmusementPark.Client.ExitReport
import AmusementPark.Cashier.Admission
import AmusementPark.Restaurant.Admission
import AmusementPark.Rounds.Evacuation
import AmusementPark.Attraction.Criteria
import AmusementPark.Cashier.MessageHandling
import AmusementPark.Rounds.Timeouts
import AmusementPark.Attraction.NewHandlers
import AmusementPark.Attraction.OnePlace
import AmusementPark.Ipc.MessageQueue
import AmusementPark.Ipc.QueueOwnership
import AmusementPark.Ipc.ArrayOwnership
import AmusementPark.Ipc.SharedMemoryOwnership
import AmusementPark.Attraction.SemaphoreLayout
import AmusementPark.Library.PartialWrites
import AmusementPark.Logger.LogMessage
import AmusementPark.Logger.LoggerThread
import AmusementPark.Library.PriorityQueue
import AmusementPark.Worker.Traffic
import AmusementPark.Cashier.Arrivals
import AmusementPark.Attraction.Requests
import AmusementPark.Restaurant.Requests
import AmusementPark.Rounds.Requests
import AmusementPark.Ipc.Delivery
import AmusementPark.Main.ParkLog
import AmusementPark.Library.CriticalSection
import AmusementPark.Main.CriticalSections
import AmusementPark.Library.Format
import AmusementPark.Logger.LogFormat
import AmusementPark.Ipc.QueueNames
import AmusementPark.Main.ReadableLog
import AmusementPark.Library.LastCall
import AmusementPark.Rounds.LateAdmissions
import AmusementPark.Library.Since
import AmusementPark.Rounds.ClosingPosts
import AmusementPark.Rounds.LastSteps
import AmusementPark.Attraction.Riders
import AmusementPark.Library.Ledger
import AmusementPark.Rounds.Bills
import AmusementPark.Main.Startup
import AmusementPark.Client.Tour
import AmusementPark.Library.SoleOwner
import AmusementPark.Main.Lifecycle
